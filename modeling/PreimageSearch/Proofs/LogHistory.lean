import Mathlib.Data.List.Basic
import Mathlib.Data.List.Induction
import PreimageSearch.Logging

/-!
# Histories of logging

What a program may observe of its logging after any calls, told from the calls alone: whether
logging is on (`Call.switchedOn`), which call chose the destination for good (`Call.opener?`), and
which notes have been written (`Call.heard`). A history that agrees with the calls behind it is
described by `History.Records`; one call keeps the agreement (`Records.next`), and so it holds after
any sequence of calls (`records_after`).
-/

namespace PreimageSearch

namespace Logging

theorem Variables.enabled?_eq_none_iff {settings : Variables} :
    settings.enabled? = none ↔
      ∃ value, settings.switch = some value ∧ value ≠ "true" ∧ value ≠ "false" := by
  unfold enabled?
  split <;> simp_all

/-! ## What the calls say -/

namespace Call

/-- What a call switches logging to, unless it fails. -/
def flag? : Call → Option Bool
  | start enabled _ => some enabled
  | startFrom settings => settings.enabled?
  | log _ _ => none

/-- The log file that a call names. -/
def file? : Call → Option String
  | start _ file => file
  | startFrom settings => settings.logFile
  | log _ _ => none

/-- The note of a log call. -/
def note? : Call → Option Journal.Event
  | log source text => some (Journal.note source text)
  | _ => none

/-- Whether logging was switched on last. -/
def switchedOn (calls : List Call) : Bool :=
  (calls.filterMap flag?).getLastD false

/-- The first call that switches logging on. -/
def opener? (calls : List Call) : Option Call :=
  calls.find? fun call => call.flag? == some true

/-- The notes of the log calls made while logging is on. -/
def heard (calls : List Call) : List Journal.Event :=
  calls.zipIdx.filterMap fun (call, i) => if switchedOn (calls.take i) then call.note? else none

theorem switchedOn_append (calls : List Call) (call : Call) :
    switchedOn (calls ++ [call]) = call.flag?.getD (switchedOn calls) := by
  unfold switchedOn
  rw [List.filterMap_append]
  cases h : call.flag? <;> simp [h]

theorem opener?_append (calls later : List Call) :
    opener? (calls ++ later) = (opener? calls).or (opener? later) :=
  List.find?_append

theorem opener?_singleton (call : Call) :
    opener? [call] = if call.flag? = some true then some call else none := by
  by_cases h : call.flag? = some true <;> simp [opener?, h]

theorem opener?_append_of_flag {call : Call} (flag : call.flag? = none) (calls : List Call) :
    opener? (calls ++ [call]) = opener? calls := by
  simp [opener?_append, opener?_singleton, flag]

theorem heard_append (calls : List Call) (call : Call) :
    heard (calls ++ [call]) =
      heard calls ++ (if switchedOn calls then call.note? else none).toList := by
  unfold heard
  rw [List.zipIdx_append, List.filterMap_append]
  congr 1
  · -- An earlier call has the same calls before it.
    apply List.filterMap_congr
    rintro ⟨earlier, i⟩ member
    have before : (calls ++ [call]).take i = calls.take i :=
      List.take_append_of_le_length (Nat.le_of_lt (List.mem_zipIdx' member).1)
    simp only [before]
  · have before : (calls ++ [call]).take (0 + calls.length) = calls := by simp
    simp only [List.zipIdx_singleton, List.filterMap_cons, before, List.filterMap_nil]
    cases (if switchedOn calls then call.note? else none) <;> rfl

/-- Logging is never on without a call that switched it on. -/
theorem exists_opener {calls : List Call} (on : switchedOn calls = true) :
    ∃ opener, opener? calls = some opener := by
  have last : (calls.filterMap flag?).getLast? = some true := by
    rw [switchedOn, List.getLastD_eq_getLast?] at on
    cases h : (calls.filterMap flag?).getLast? with
    | none => simp [h] at on
    | some flag => simpa [h] using on
  obtain ⟨call, member, flag⟩ := List.mem_filterMap.1 (List.mem_of_getLast? last)
  apply Option.isSome_iff_exists.1
  exact List.find?_isSome.2 ⟨call, member, by simp [flag]⟩

end Call

namespace Logger

/-- The log file is the one that was asked for, if it opens. -/
theorem logFile?_of_choose {refusal : String → Option FileError} {logger : Logger}
    {file : Option String} (chosen : logger.destination = some (choose refusal file).1) :
    logger.logFile? = file.filter fun path => (refusal path).isNone := by
  rw [logFile?, chosen]
  rcases file with _ | path
  · rfl
  · cases h : refusal path <;> simp [choose, Option.filter, h]

/-- Events are delivered to the destination and nowhere else. -/
theorem destination_of_mem_deliver {logger : Logger} {events : List Journal.Event}
    {delivery : Destination × Journal.Event} (member : delivery ∈ logger.deliver events) :
    logger.destination = some delivery.1 := by
  unfold deliver at member
  split at member
  · cases member
  · next destination chosen =>
    obtain ⟨event, -, rfl⟩ := List.mem_map.1 member
    exact chosen

theorem deliver_of_disabled {logger : Logger} (off : logger.enabled = false)
    (source text : String) : logger.deliver [Journal.note source text] = [] := by
  unfold deliver
  split <;> simp [Journal.note, accepts, off]

theorem deliver_of_enabled {logger : Logger} {destination : Destination}
    (on : logger.enabled = true) (chosen : logger.destination = some destination)
    (source text : String) :
    logger.deliver [Journal.note source text] = [(destination, Journal.note source text)] := by
  simp [deliver, chosen, Journal.note, accepts, on]

end Logger

namespace History

variable {refusal : String → Option FileError}

/-! ## What one call does -/

theorem logger_start (enabled : Bool) (file : Option String) (history : History) :
    (history.start refusal enabled file).logger =
      ⟨enabled, history.logger.destination.or
        (if enabled then some (choose refusal file).1 else none)⟩ := by
  unfold start Logging.start
  cases enabled with
  | false => simp
  | true => cases h : history.logger.destination <;> simp

/-- A call either starts logging, or writes a note, or fails for a switch that is not understood and
then leaves the history as it was. -/
theorem run_perform_cases (refusal : String → Option FileError) (history : History) (call : Call) :
    (∃ enabled, call.flag? = some enabled ∧ call.note? = none ∧
      (perform refusal call).run history =
        (some (), history.start refusal enabled call.file?)) ∨
    (∃ source text, call = .log source text ∧
      (perform refusal call).run history =
        (some (), history.write [Journal.note source text])) ∨
    (∃ settings, call = .startFrom settings ∧ settings.enabled? = none ∧
      (perform refusal call).run history = (none, history)) := by
  cases call with
  | start enabled file => exact .inl ⟨enabled, rfl, rfl, rfl⟩
  | log source text => exact .inr (.inl ⟨source, text, rfl, rfl⟩)
  | startFrom settings =>
    rcases known : settings.enabled? with _ | enabled
    · refine .inr (.inr ⟨settings, rfl, known, ?_⟩)
      rw [perform, known]
      rfl
    · refine .inl ⟨enabled, known, rfl, ?_⟩
      rw [perform, known]
      rfl

/-- The history after a call, which may have failed. -/
def next (refusal : String → Option FileError) (history : History) (call : Call) : History :=
  ((perform refusal call).run history).2

/-- The history after calls, from the start of the program. -/
def after (refusal : String → Option FileError) (calls : List Call) : History :=
  calls.foldl (next refusal) {}

theorem run_perform_eq_none_iff {history : History} {call : Call} :
    ((perform refusal call).run history).1 = none ↔
      ∃ settings value, call = .startFrom settings ∧ settings.switch = some value ∧
        value ≠ "true" ∧ value ≠ "false" := by
  rcases run_perform_cases refusal history call with
    ⟨enabled, flag, -, ran⟩ | ⟨source, text, rfl, ran⟩ | ⟨settings, rfl, bad, ran⟩
  · refine ⟨fun failed => by simp [ran] at failed, ?_⟩
    rintro ⟨settings, value, rfl, misread⟩
    have unclear : settings.enabled? = none := Variables.enabled?_eq_none_iff.2 ⟨value, misread⟩
    rw [Call.flag?, unclear] at flag
    cases flag
  · simp [ran]
  · obtain ⟨value, misread⟩ := Variables.enabled?_eq_none_iff.1 bad
    exact ⟨fun _ => ⟨settings, value, rfl, misread⟩, fun _ => by rw [ran]⟩

/-- A call that fails changes nothing. -/
theorem next_of_failed {history : History} {call : Call}
    (failed : ((perform refusal call).run history).1 = none) :
    next refusal history call = history := by
  rcases run_perform_cases refusal history call with
    ⟨enabled, -, -, ran⟩ | ⟨source, text, -, ran⟩ | ⟨settings, -, -, ran⟩
  · simp [ran] at failed
  · simp [ran] at failed
  · rw [next, ran]

theorem after_append (calls : List Call) (call : Call) :
    after refusal (calls ++ [call]) = next refusal (after refusal calls) call := by
  simp [after]

/-! ## Agreement with the calls -/

/-- The history is what the calls behind it say. -/
structure Records (refusal : String → Option FileError) (calls : List Call) (history : History) :
    Prop where
  enabled : history.logger.enabled = Call.switchedOn calls
  destination : history.logger.destination =
    (Call.opener? calls).map fun opener => (choose refusal opener.file?).1
  heard : history.emitted.map Prod.snd = Call.heard calls
  delivered : ∀ delivery ∈ history.emitted, history.logger.destination = some delivery.1

namespace Records

variable {calls : List Call} {history : History}

theorem nil : Records refusal [] {} where
  enabled := rfl
  destination := rfl
  heard := rfl
  delivered _ member := by cases member

/-- There is a destination while logging is on. -/
theorem exists_destination (h : Records refusal calls history)
    (on : history.logger.enabled = true) :
    ∃ destination, history.logger.destination = some destination := by
  rw [h.enabled] at on
  obtain ⟨opener, first⟩ := Call.exists_opener on
  exact ⟨_, by rw [h.destination, first, Option.map_some]⟩

theorem logFile? (h : Records refusal calls history) :
    history.logger.logFile? = (Call.opener? calls).bind fun opener =>
      opener.file?.filter fun path => (refusal path).isNone := by
  have chosen := h.destination
  cases first : Call.opener? calls with
  | none =>
    rw [first, Option.map_none] at chosen
    rw [Logger.logFile?, chosen, Option.bind_none]
  | some opener =>
    rw [first, Option.map_some] at chosen
    exact Logger.logFile?_of_choose chosen

/-- The lines of the destination are those of all notes. -/
theorem linesTo (h : Records refusal calls history) {destination : Destination}
    (chosen : history.logger.destination = some destination) :
    history.linesTo destination = (Call.heard calls).map Journal.Event.line := by
  have all : history.linesTo destination =
      history.emitted.filterMap fun delivery => some delivery.2.line := by
    apply List.filterMap_congr
    intro delivery member
    have goal : some destination = some delivery.1 := chosen.symm.trans (h.delivered _ member)
    exact if_pos (Option.some.inj goal).symm
  rw [all, List.filterMap_eq_map', ← h.heard, List.map_map]
  rfl

/-- A call that neither starts nor logs says nothing. -/
theorem append_silent (h : Records refusal calls history) {call : Call} (flag : call.flag? = none)
    (note : call.note? = none) : Records refusal (calls ++ [call]) history where
  enabled := by rw [Call.switchedOn_append, flag, Option.getD_none, h.enabled]
  destination := by rw [Call.opener?_append_of_flag flag, h.destination]
  heard := by simp [Call.heard_append, note, h.heard]
  delivered := h.delivered

theorem start (h : Records refusal calls history) {call : Call} {enabled : Bool}
    (flag : call.flag? = some enabled) (note : call.note? = none) :
    Records refusal (calls ++ [call]) (history.start refusal enabled call.file?) where
  enabled := by rw [logger_start, Call.switchedOn_append, flag, Option.getD_some]
  destination := by
    rw [logger_start, h.destination, Call.opener?_append, Call.opener?_singleton, flag]
    cases enabled <;> cases Call.opener? calls <;> simp
  heard := by
    rw [Call.heard_append, note, ite_self, Option.toList_none, List.append_nil]
    exact h.heard
  delivered delivery member := by
    rw [logger_start]
    simp only [h.delivered delivery member, Option.some_or]

theorem write (h : Records refusal calls history) (source text : String) :
    Records refusal (calls ++ [.log source text]) (history.write [Journal.note source text]) where
  enabled := by
    rw [Call.switchedOn_append]
    exact h.enabled
  destination := by
    rw [Call.opener?_append_of_flag rfl]
    exact h.destination
  heard := by
    rw [Call.heard_append, ← h.enabled, ← h.heard]
    cases on : history.logger.enabled with
    | false => simp [History.write, Logger.deliver_of_disabled on]
    | true =>
      obtain ⟨destination, chosen⟩ := h.exists_destination on
      simp [History.write, Logger.deliver_of_enabled on chosen, Call.note?]
  delivered delivery member := by
    rcases List.mem_append.1 member with earlier | new
    · exact h.delivered delivery earlier
    · exact Logger.destination_of_mem_deliver new

/-- One call keeps the agreement. -/
theorem next (h : Records refusal calls history) (call : Call) :
    Records refusal (calls ++ [call]) (history.next refusal call) := by
  rcases run_perform_cases refusal history call with
    ⟨enabled, flag, note, ran⟩ | ⟨source, text, rfl, ran⟩ | ⟨settings, rfl, bad, ran⟩
  · rw [History.next, ran]
    exact h.start flag note
  · rw [History.next, ran]
    exact h.write source text
  · rw [History.next, ran]
    exact h.append_silent bad rfl

end Records

/-- After any calls, the history is what they say. -/
theorem records_after (refusal : String → Option FileError) (calls : List Call) :
    Records refusal calls (after refusal calls) := by
  induction calls using List.reverseRecOn with
  | nil => exact Records.nil
  | append_singleton calls call ih =>
    rw [after_append]
    exact ih.next call

/-- The destination never changes once it is chosen. -/
theorem destination_after_append {calls : List Call}
    (opened : (Call.opener? calls).isSome = true) (later : List Call) :
    (after refusal (calls ++ later)).logger.destination =
      (after refusal calls).logger.destination := by
  obtain ⟨opener, first⟩ := Option.isSome_iff_exists.1 opened
  rw [(records_after refusal (calls ++ later)).destination,
    (records_after refusal calls).destination, Call.opener?_append, first, Option.some_or]

/-- What may be observed of logging after any calls. It is on if the last start that did not fail
says so. There is no log file before the first start that switches it on, and from then on it is the
one which that start names, or none if that does not open. The lines written are the notes made
while logging was on, all to the one destination. A call fails only for a switch that is not
understood, and a call that fails changes nothing. -/
theorem after_any_calls (refusal : String → Option FileError) (calls : List Call) :
    let history := after refusal calls
    history.logger.enabled = Call.switchedOn calls ∧
    history.logger.logFile? = ((Call.opener? calls).bind fun opener =>
      opener.file?.filter fun path => (refusal path).isNone) ∧
    ((Call.opener? calls).isSome = true → ∀ later,
      (after refusal (calls ++ later)).logger.destination = history.logger.destination ∧
      (after refusal (calls ++ later)).logger.logFile? = history.logger.logFile?) ∧
    (history.logger.enabled = true → history.logger.destination.isSome = true) ∧
    (history.emitted.map Prod.snd = Call.heard calls ∧
      (∀ delivery ∈ history.emitted, history.logger.destination = some delivery.1) ∧
      ∀ destination, history.logger.destination = some destination →
        history.linesTo destination = (Call.heard calls).map Journal.Event.line) ∧
    ∀ call,
      (((perform refusal call).run history).1 = none ↔
        ∃ settings value, call = .startFrom settings ∧ settings.switch = some value ∧
          value ≠ "true" ∧ value ≠ "false") ∧
      (((perform refusal call).run history).1 = none →
        after refusal (calls ++ [call]) = history) := by
  intro history
  have records : Records refusal calls history := records_after refusal calls
  refine ⟨records.enabled, records.logFile?, fun opened later => ?_, fun on => ?_,
    ⟨records.heard, records.delivered, fun _ chosen => records.linesTo chosen⟩,
    fun call => ⟨run_perform_eq_none_iff, fun failed => ?_⟩⟩
  · have kept : (after refusal (calls ++ later)).logger.destination = history.logger.destination :=
      destination_after_append opened later
    exact ⟨kept, by rw [Logger.logFile?, Logger.logFile?, kept]⟩
  · exact Option.isSome_iff_exists.2 (records.exists_destination on)
  · rw [after_append]
    exact next_of_failed failed

theorem after_any_calls_reopened :
    let refusal : String → Option FileError := fun path =>
      if path = "missing/b.log" then some .notFound else none
    let history := after refusal [.log "Sim" "early", .start false (some "c.log"),
      .startFrom { switch := some "on" }, .start true (some "a.log"), .log "Sim" "kept",
      .startFrom { switch := some "true", logFile := some "missing/b.log" }, .start false none,
      .log "Sim" "late"]
    history.logger.enabled = false ∧ history.logger.logFile? = some "a.log" ∧
      history.emitted.map Prod.snd = [Journal.note "Sim" "kept"] := by
  intro refusal history
  obtain ⟨enabled, file, -, -, ⟨heard, -⟩, -⟩ := after_any_calls refusal _
  exact ⟨enabled.trans rfl, file.trans rfl, heard.trans rfl⟩

end History

end Logging

end PreimageSearch
