import Mathlib.Data.List.Basic
import PreimageSearch.Proofs.Ending
import PreimageSearch.Proofs.Hex

/-!
# What printed results mean

A turn that simulates a search shows `Search result (hex):` with a preimage, or `Search failed.`; a
turn that prices one shows the report of exactly that search under `Results`, and no other result.
That nothing else on the console can be taken for a result is the matter of `Unmarked`.
-/

namespace PreimageSearch

/-- The words stand somewhere in the text. -/
def Shows (text words : String) : Prop :=
  words.toList <:+: text.toList

namespace Session

open Interview

/-! ## Outcomes -/

section Outcomes

variable {opening : String}

/-- Words that begin like an outcome are those of the outcome. -/
theorem isPrefix_of_shows (h : Lacks 'S' opening) {words shown : String}
    (alone : 'S' ∉ words.toList) (shows : Shows (opening ++ ("\nSe" ++ words)) ("Se" ++ shown)) :
    shown.toList <+: words.toList := by
  obtain ⟨before, after, same⟩ := shows
  have line : Lacks 'S' (opening ++ "\n") := h.append (by decide)
  have rest : shown.toList ++ after = words.toList := by
    apply line.split_unique (by decide) alone
    simpa using same.symm
  exact ⟨after, rest⟩

theorem not_mem_text {c : Char} (other : ∀ d < 16, Hex.digit d ≠ c) (input : Nat) :
    c ∉ (Hex.text input).toList := by
  intro member
  obtain ⟨d, small, same⟩ := Hex.exists_digit_of_mem_text member
  exact other d small same.symm

theorem result_words (digits : String) : "Search result (hex): " ++ digits ++ "\n" =
    "Se" ++ ("arch result (hex): " ++ (digits ++ "\n")) := by
  have words : "Search result (hex): " = "Se" ++ "arch result (hex): " := rfl
  rw [words, String.append_assoc, String.append_assoc]

theorem result_line (digits : String) : "\nSearch result (hex): " ++ digits ++ "\n" =
    "\nSe" ++ ("arch result (hex): " ++ (digits ++ "\n")) := by
  have words : "\nSearch result (hex): " = "\nSe" ++ "arch result (hex): " := rfl
  rw [words, String.append_assoc, String.append_assoc]

theorem outcome_exhausted : Rendering.outcome .exhausted = "\nSe" ++ "arch failed.\n" :=
  rfl

/-- The only result shown is the one that was found. -/
theorem shown_unique (h : Lacks 'S' opening) {found digits : String}
    (marker : 'S' ∉ found.toList) (single : '\n' ∉ found.toList)
    (shows : Shows (opening ++ ("\nSearch result (hex): " ++ found ++ "\n"))
      ("Search result (hex): " ++ digits ++ "\n")) : digits = found := by
  rw [result_line, result_words] at shows
  have alone : 'S' ∉ ("arch result (hex): " ++ (found ++ "\n")).toList := by
    have plain : 'S' ∉ "arch result (hex): ".toList ∧ 'S' ∉ "\n".toList := by decide
    simp only [String.toList_append, List.mem_append, not_or]
    exact ⟨plain.1, marker, plain.2⟩
  obtain ⟨after, same⟩ := isPrefix_of_shows h alone shows
  simp only [String.toList_append, List.append_assoc, List.append_cancel_left_eq] at same
  have equal := (List.append_cons_inj_of_notMem single List.not_mem_nil).1 same.symm
  exact String.toList_injective equal.1.symm

theorem shown_of_found (h : Lacks 'S' opening) {input : Nat} {digits : String}
    (shows : Shows (opening ++ Rendering.outcome (.found input))
      ("Search result (hex): " ++ digits ++ "\n")) : digits = Hex.text input :=
  shown_unique h (not_mem_text (by decide) input) (not_mem_text (by decide) input) shows

/-- Where nothing was found, no result is shown. -/
theorem not_shows_of_exhausted (h : Lacks 'S' opening) (digits : String) :
    ¬ Shows (opening ++ Rendering.outcome .exhausted)
      ("Search result (hex): " ++ digits ++ "\n") := by
  intro shows
  rw [outcome_exhausted, result_words] at shows
  have beginning := isPrefix_of_shows h (by decide) shows
  rw [String.toList_append] at beginning
  have words : "arch result (hex): ".toList <+: "arch failed.\n".toList :=
    (List.prefix_append _ _).trans beginning
  revert words
  decide

end Outcomes

/-! ## Turns that complete -/

/-- What a turn that completes has printed, by its request. -/
def Prints (text : String) : Request → Prop
  | .run .simulate search =>
    (Shows text "Search failed.\n" ∨
      ∃ digits, Shows text ("Search result (hex): " ++ digits ++ "\n")) ∧
    (∀ digits, Shows text ("Search result (hex): " ++ digits ++ "\n") →
      ∃ input, Hex.read? digits = some input ∧ input < 2 ^ search.parameters.inputWidth ∧
        search.Preimage input) ∧
    ((∀ input < 2 ^ search.parameters.inputWidth, ¬ search.Preimage input) →
      Shows text "Search failed.\n")
  | .run .analyze search =>
    (∃ opening report, Estimator.estimate search = .ok report ∧ ¬ Shows opening "Results" ∧
      text = opening ++ "\nResults\n--------------------\n" ++ report.text ++ "\n") ∧
    ¬ Shows text "Search result" ∧ ¬ Shows text "Search failed."
  | .help => True
  | .quit => True

theorem shows_line (opening line : String) : Shows (opening ++ ("\n" ++ line)) line :=
  ⟨(opening ++ "\n").toList, [], by simp⟩

theorem shows_found (opening digits : String) :
    Shows (opening ++ ("\nSearch result (hex): " ++ digits ++ "\n"))
      ("Search result (hex): " ++ digits ++ "\n") := by
  have line : "\nSearch result (hex): " = "\n" ++ "Search result (hex): " := rfl
  simp only [line, String.append_assoc]
  exact shows_line opening _

theorem prints_estimation {search : Search} {report : ResourceReport} {opening : String}
    (priced : Estimator.estimate search = .ok report) (unmarked : Unmarked opening)
    (lacks : Lacks 'S' report.text) :
    Prints (opening ++ Rendering.estimation report) (.run .analyze search) := by
  have whole : Lacks 'S' (opening ++ Rendering.estimation report) :=
    unmarked.search.append (((by decide : Lacks 'S' "\nResults\n--------------------\n").append
      lacks).append (by decide))
  refine ⟨⟨opening, report, priced, unmarked.results.not_infix _, ?_⟩, whole.not_infix _,
    whole.not_infix _⟩
  change opening ++ ("\nResults\n--------------------\n" ++ report.text ++ "\n") = _
  simp only [String.append_assoc]

theorem prints_outcome {search : Search} {words : Nat → UInt64} {simulation : Simulation}
    {opening : String} (evaluates : search.Evaluates)
    (simulated : Simulation.simulate search words = .ok simulation) (unmarked : Unmarked opening) :
    Prints (opening ++ Rendering.outcome simulation.outcome) (.run .simulate search) := by
  obtain ⟨other, run, accounts⟩ : ∃ other, Simulation.simulate search words = .ok other ∧
    other.Accounts Float groverIterations search words := Simulation.accounts_simulateWith evaluates
  obtain rfl : other = simulation := Except.ok.inj (run.symm.trans simulated)
  have failed : Shows (opening ++ Rendering.outcome .exhausted) "Search failed.\n" :=
    shows_line opening "Search failed.\n"
  refine ⟨?_, fun digits shows => ?_, fun none => ?_⟩
  · rcases ho : other.outcome with input | _
    · exact .inr ⟨Hex.text input, shows_found opening (Hex.text input)⟩
    · exact .inl failed
  · rcases ho : other.outcome with input | _
    · rw [ho] at shows
      obtain ⟨inside, preimage, -⟩ := accounts.found input ho
      rw [shown_of_found unmarked.search shows]
      exact ⟨input, Hex.read?_text input, inside, preimage⟩
    · rw [ho] at shows
      exact absurd shows (not_shows_of_exhausted unmarked.search digits)
  · rw [accounts.exhausted_of_none none]
    exact failed

/-- In every session, a turn that completes prints what its request, made on the lines of the
script, asks for. -/
theorem turn_prints (config : Config) (conditions : Nat → Conditions) (recording : Bool)
    (script : Bytes) (room : Option Nat) (before after : Desk) (next : Next)
    (reached : (Program.session config).Reaches conditions recording script room before)
    (completed : (Program.session config).turn conditions before = (.ok next, after)) :
    before.console.lines <:+ Line.split script ∧
    ∃ request text, Requested .standard before.console.lines request after.console.lines ∧
      after.console.sink.written = before.console.sink.written ++ String.toUTF8 text ∧
      Prints text request := by
  obtain ⟨result, rest, number, said, turn, runs⟩ := exists_turn (Program.session config)
    Catalog.standard_reliable conditions before.console.lines before.runs
  obtain ⟨rfl, view, written⟩ := runs.of_ok rfl completed
  have left : after.console.lines = rest := (Prod.mk.inj view).1
  have all := Sink.written_of_write written
  refine ⟨reached.suffix Catalog.standard_reliable, ?_⟩
  rw [left]
  cases turn with
  | quit requested => exact ⟨_, _, requested, all, trivial⟩
  | help requested => exact ⟨_, _, requested, all, trivial⟩
  | analyze requested _ unmarked priced lacks =>
    exact ⟨_, _, requested, all, prints_estimation priced unmarked lacks⟩
  | simulate requested _ unmarked evaluates _ simulated =>
    exact ⟨_, _, requested, all, prints_outcome evaluates simulated unmarked⟩

/-- The lines `2`, `1`, `1`, `1` and `0` ask to simulate `CRC-8` for one target over one bit with
the check zero, and that turn completes. -/
theorem turn_prints_crc8 :
    let conditions : Nat → Conditions := fun _ => ⟨"", ⟨0, 0, by decide⟩, 0, fun _ => 0⟩
    let script : Bytes := [50, 10, 49, 10, 49, 10, 49, 10, 48, 10]
    let search : Search := ⟨.ofChecksum .crc8,
      ⟨"CRC-8", .single, 1, 8, 0, by decide, by decide, by decide, by decide⟩⟩
    ∃ before after text, (Program.session {}).Reaches conditions false script none before ∧
      (Program.session {}).turn conditions before = (.ok .again, after) ∧
      after.console.sink.written = before.console.sink.written ++ String.toUTF8 text ∧
      Prints text (.run .simulate search) := by
  intro conditions script search
  have requested : Requested .standard (Line.split script) (.run .simulate search) [] := by
    have split : Line.split script = [[50, 10], [49, 10], [49, 10], [49, 10], [48, 10]] := by decide
    rw [split]
    exact requested_crc8 []
  obtain ⟨before, _, reached, view, sink, -⟩ :=
    exists_greeted (Program.session {}) conditions false script
  obtain ⟨result, rest, number, said, turn, runs⟩ := exists_turn (Program.session {})
    Catalog.standard_reliable conditions (Line.split script) 0
  obtain ⟨ends, -, -⟩ := runs.unlimited before view sink
  have again : result = .ok .again := by
    cases turn with
    | unread _ unfinished => exact absurd requested (unfinished _ _)
    | quit other => cases (requested.unique other).1
    | help | analyze | simulate => rfl
    | refuse other _ refused =>
      cases (requested.unique other).1
      cases refused
  have completed : (Program.session {}).turn conditions before = (.ok .again, _) :=
    Prod.ext (ends.trans again) rfl
  obtain ⟨-, request, text, asked, written, prints⟩ := turn_prints {} conditions false script none
    before _ .again reached completed
  rw [(Prod.mk.inj view).1] at asked
  cases (requested.unique asked).1
  exact ⟨before, _, text, reached, completed, written, prints⟩

end Session

end PreimageSearch
