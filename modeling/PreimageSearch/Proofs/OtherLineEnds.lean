import Mathlib.Data.List.Forall2
import PreimageSearch.Proofs.Causality

/-!
# Scripts with other line ends

Lines are `Line.Reended` if they differ in line feeds and carriage returns at their ends only. They
are read as texts alike, so a session does not tell scripts apart whose lines are so one by one:
those with a carriage return before every line feed, and those whose last line feed is missing.
-/

namespace PreimageSearch

open Dialogue

/-! ## Lines -/

/-- Before a text, bytes are a text exactly if the whole is one. -/
theorem isValidUTF8_append_iff {bytes ending : ByteArray} (valid : ending.IsValidUTF8) :
    (bytes ++ ending).IsValidUTF8 ↔ bytes.IsValidUTF8 := by
  refine ⟨fun whole => ?_, fun first => first.append valid⟩
  -- The end of `bytes` is a position in the text of the whole, since a text follows it.
  let text : String := String.fromUTF8 (bytes ++ ending) whole
  have size : text.utf8ByteSize = bytes.size + ending.size := ByteArray.size_append
  have inside : (⟨bytes.size⟩ : String.Pos.Raw) ≤ text.rawEndPos := by
    rw [String.Pos.Raw.le_iff, String.byteIdx_rawEndPos, size]
    exact Nat.le_add_right _ _
  have position : (⟨bytes.size⟩ : String.Pos.Raw).IsValid text := by
    refine String.Pos.Raw.isValid_iff_isValidUTF8_extract_utf8ByteSize.2 ⟨inside, ?_⟩
    rw [size]
    change ((bytes ++ ending).extract bytes.size (bytes.size + ending.size)).IsValidUTF8
    rw [ByteArray.extract_append_eq_right rfl rfl]
    exact valid
  have before : ((bytes ++ ending).extract 0 bytes.size).IsValidUTF8 :=
    position.isValidUTF8_extract_zero
  rwa [ByteArray.extract_append_eq_left rfl] at before

namespace Line

/-- Bytes with the end of a line behind them. -/
def ended (body : Bytes) (ending : String) : Line :=
  body ++ ending.toUTF8.data.toList

theorem text?_ended (body : Bytes) (ending : String) :
    text? (ended body ending) = (text? body).map (· ++ ending) := by
  have joined : (⟨(ended body ending).toArray⟩ : ByteArray) = ⟨body.toArray⟩ ++ ending.toUTF8 := by
    ext1
    simp [ended]
  have valid_iff : (⟨body.toArray⟩ ++ ending.toUTF8 : ByteArray).IsValidUTF8 ↔
      (⟨body.toArray⟩ : ByteArray).IsValidUTF8 :=
    isValidUTF8_append_iff ending.isValidUTF8
  unfold text? String.fromUTF8?
  rw [joined]
  by_cases valid : (⟨body.toArray⟩ : ByteArray).IsValidUTF8
  · rw [dif_pos valid, dif_pos (valid_iff.2 valid)]
    refine congrArg some (String.toByteArray_inj.1 ?_)
    rw [String.toByteArray_append]
    rfl
  · rw [dif_neg valid, dif_neg (mt valid_iff.1 valid)]
    rfl

/-- The lines are the same but for line feeds and carriage returns at their ends. -/
def Reended (line line' : Line) : Prop :=
  ∃ (body : Bytes) (ending ending' : String), (∀ c ∈ ending.toList, endsLine c = true) ∧
    (∀ c ∈ ending'.toList, endsLine c = true) ∧ line = ended body ending ∧
    line' = ended body ending'

theorem Reended.refl (line : Line) : Reended line line :=
  ⟨line, "", "", by simp, by simp, by simp [ended], by simp [ended]⟩

theorem Reended.cons {line line' : Line} (h : Reended line line') (byte : UInt8) :
    Reended (byte :: line) (byte :: line') := by
  obtain ⟨body, ending, ending', ends, ends', rfl, rfl⟩ := h
  exact ⟨byte :: body, ending, ending', ends, ends', rfl, rfl⟩

/-- Both lines are texts that are the same without their ends, or neither is one. -/
theorem Reended.text?_map_eq {line line' : Line} (h : Reended line line') :
    line.text?.map withoutLineEnd = line'.text?.map withoutLineEnd := by
  obtain ⟨body, ending, ending', ends, ends', rfl, rfl⟩ := h
  have stripped {ending : String} (ends : ∀ c ∈ ending.toList, endsLine c = true) :
      (text? (ended body ending)).map withoutLineEnd = (text? body).map withoutLineEnd := by
    rw [text?_ended, Option.map_map]
    exact Option.map_congr fun text _ => withoutLineEnd_append ends text
  rw [stripped ends, stripped ends']

end Line

/-! ## Questions -/

theorem Dialogue.Hears.reended {α : Type} {accept : String → Option α}
    (ignores : IgnoresLineEnd accept) {lines lines' rest : List Line}
    {result : Except ConsoleError α} {count : Nat} (h : Hears accept lines result rest count)
    (alike : List.Forall₂ Line.Reended lines lines') :
    ∃ rest', List.Forall₂ Line.Reended rest rest' ∧ Hears accept lines' result rest' count := by
  induction h generalizing lines' with
  | closed =>
    cases alike
    exact ⟨[], .nil, .closed⟩
  | notText unread =>
    obtain _ | ⟨first, later⟩ := alike
    have same := first.text?_map_eq
    rw [unread, Option.map_none, eq_comm, Option.map_eq_none_iff] at same
    exact ⟨_, later, .notText same⟩
  | accepted read accepts =>
    obtain _ | ⟨first, later⟩ := alike
    have same := first.text?_map_eq
    rw [read, Option.map_some, eq_comm, Option.map_eq_some_iff] at same
    obtain ⟨text', read', stripped⟩ := same
    exact ⟨_, later, .accepted read' ((ignores _ _ stripped).trans accepts)⟩
  | refused read refuses _ ih =>
    obtain _ | ⟨first, later⟩ := alike
    have same := first.text?_map_eq
    rw [read, Option.map_some, eq_comm, Option.map_eq_some_iff] at same
    obtain ⟨text', read', stripped⟩ := same
    obtain ⟨rest', related, hears⟩ := ih later
    exact ⟨rest', related, .refused read' ((ignores _ _ stripped).trans refuses) hears⟩

namespace Pairing

/-- The lines are the same but for their ends. -/
def reended : Pairing (List Line) ConsoleError :=
  ⟨List.Forall₂ Line.Reended, fun _ => False⟩

theorem asks_reended : reended.Asks := by
  intro α accept ignores lines lines' alike
  obtain ⟨result, rest, count, hears⟩ := exists_hears accept lines
  exact ⟨_, _, _, hears, .inl (hears.reended ignores alike)⟩

end Pairing

/-! ## Scripts -/

namespace Line

/-- The script with a carriage return before every line feed. -/
def withReturns (script : Bytes) : Bytes :=
  script.flatMap fun byte => if byte = 0x0A then [0x0D, 0x0A] else [byte]

theorem split_cons_reended {script script' : Bytes}
    (h : List.Forall₂ Reended (split script) (split script')) (byte : UInt8) :
    List.Forall₂ Reended (split (byte :: script)) (split (byte :: script')) := by
  rw [split, split]
  by_cases feed : byte = 0x0A
  · rw [if_pos feed, if_pos feed]
    exact .cons (.refl _) h
  rw [if_neg feed, if_neg feed]
  generalize split script = lines at h ⊢
  generalize split script' = lines' at h ⊢
  cases h with
  | nil => exact .cons (.refl _) .nil
  | cons first later => exact .cons (first.cons byte) later

theorem split_withReturns (script : Bytes) :
    List.Forall₂ Reended (split script) (split (withReturns script)) := by
  induction script with
  | nil => exact .nil
  | cons byte rest ih =>
    rw [withReturns, List.flatMap_cons]
    by_cases feed : byte = 0x0A
    · rw [if_pos feed, feed]
      have returned : Reended [0x0A] [0x0D, 0x0A] :=
        ⟨[], "\n", "\r\n", by simp [endsLine], by simp [endsLine], by decide, by decide⟩
      exact .cons returned ih
    · rw [if_neg feed]
      exact split_cons_reended ih byte

/-- A line that has begun ends with the script, too. -/
theorem split_unfinished (body : Bytes) {last : UInt8} (begun : last ≠ 0x0A) :
    List.Forall₂ Reended (split (body ++ [last, 0x0A])) (split (body ++ [last])) := by
  induction body with
  | nil =>
    have fed : Reended [last, 0x0A] [last] :=
      ⟨[last], "\n", "", by simp [endsLine], by simp, rfl, rfl⟩
    simp only [List.nil_append, split, if_neg begun]
    exact .cons fed .nil
  | cons byte rest ih => exact split_cons_reended ih byte

end Line

namespace Session

/-- Scripts whose lines differ in their ends only lead to the same result and the same output. -/
theorem onScript_reended {session : Session} {seed : UInt64}
    (seeded : session.simulator.seed = some seed) {conditions other : Nat → Conditions}
    (alike : ∀ run, (conditions run).Alike (other run)) (recording : Bool) {script script' : Bytes}
    (lines : List.Forall₂ Line.Reended (Line.split script) (Line.split script')) :
    let ended := session.onScript conditions recording script none
    let ended' := session.onScript other recording script' none
    ended'.1 = ended.1 ∧ ended'.2.console.sink.written = ended.2.console.sink.written := by
  intro ended ended'
  have serves : Desk.outlet.Follows (Pairing.reended.atDesk 0)
      (session.serve conditions : Work Unit) (session.serve other) :=
    follows_serve Pairing.asks_reended seeded alike
  obtain ⟨result, after, said, runs, ⟨after', -, runs'⟩ | ⟨_, _, _, _, -, ⟨_, -, ⟨⟩⟩, -⟩⟩ :=
    serves.follows (Line.split script, 0) (Line.split script', 0) ⟨lines, rfl⟩
  obtain ⟨ends, -, written⟩ := onScript_of_runs recording runs
  obtain ⟨ends', -, written'⟩ := onScript_of_runs recording runs'
  exact ⟨ends'.trans ends.symm, written'.trans written.symm⟩

/-- Line ends do not matter. A seeded session comes to the same result with the same output if every
line feed has a carriage return before it, and if the line feed after the last line is missing,
where that line has a byte of its own. -/
theorem onScript_lineEnds (config : Config) (seed : Nat)
    (seeded : config.simulator.seed = some seed) (conditions other : Nat → Conditions)
    (alike : ∀ run, (conditions run).Alike (other run)) (recording : Bool) (script : Bytes) :
    let session := Program.session config
    let ended := session.onScript conditions recording script none
    let ended' (script : Bytes) := session.onScript other recording script none
    ((ended' (Line.withReturns script)).1 = ended.1 ∧
      (ended' (Line.withReturns script)).2.console.sink.written =
        ended.2.console.sink.written) ∧
    ∀ (body : Bytes) (last : UInt8), script = body ++ [last, 0x0A] → last ≠ 0x0A →
      (ended' (body ++ [last])).1 = ended.1 ∧
      (ended' (body ++ [last])).2.console.sink.written = ended.2.console.sink.written := by
  intro session ended ended'
  have seeded' := Program.seed_session seeded
  constructor
  · exact onScript_reended seeded' alike recording (Line.split_withReturns script)
  · rintro body last rfl begun
    exact onScript_reended seeded' alike recording (Line.split_unfinished body begun)

/-- The lines `2`, `1`, `1`, `1`, a blank one and `4` simulate `CRC-8` over one bit for the check
zero and quit. They do so, too, with carriage returns and without the last line feed. -/
theorem onScript_lineEnds_crc8 :
    let conditions : Nat → Conditions := fun _ => ⟨"", ⟨0, 0, by decide⟩, 0, fun _ => 0⟩
    let session := Program.session { simulator := { seed := some 7 } }
    let ended (script : Bytes) := session.onScript conditions false script none
    let fed := ended [50, 10, 49, 10, 49, 10, 49, 10, 10, 52, 10]
    let returned := ended [50, 13, 10, 49, 13, 10, 49, 13, 10, 49, 13, 10, 13, 10, 52, 13, 10]
    let unfinished := ended [50, 10, 49, 10, 49, 10, 49, 10, 10, 52]
    (returned.1 = fed.1 ∧ returned.2.console.sink.written = fed.2.console.sink.written) ∧
    unfinished.1 = fed.1 ∧ unfinished.2.console.sink.written = fed.2.console.sink.written := by
  intro conditions session ended fed returned unfinished
  have alike (run : Nat) : (conditions run).Alike (conditions run) := ⟨rfl, rfl⟩
  have returns : Line.withReturns [50, 10, 49, 10, 49, 10, 49, 10, 10, 52, 10] =
      [50, 13, 10, 49, 13, 10, 49, 13, 10, 49, 13, 10, 13, 10, 52, 13, 10] := by
    decide
  obtain ⟨first, second⟩ := onScript_lineEnds { simulator := { seed := some 7 } } 7 rfl conditions
    conditions alike false [50, 10, 49, 10, 49, 10, 49, 10, 10, 52, 10]
  rw [returns] at first
  exact ⟨first, second [50, 10, 49, 10, 49, 10, 49, 10, 10] 52 rfl (by decide)⟩

end Session

end PreimageSearch
