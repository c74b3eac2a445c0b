import PreimageSearch.Session.Interview

/-!
# How much a conversation reads

`Takes left work k` says that `work` takes at least `k` off the quantity `left` of its state
whenever it succeeds. With `left` the number of lines on the console, a question takes one or more,
and so does every turn of the main menu (`Interview.takes_request`).
-/

namespace PreimageSearch

/-- Whenever `work` succeeds, `left` has dropped by at least `k`. -/
def Takes {σ ε α : Type} (left : σ → Nat) (work : ExceptT ε (StateM σ) α) (k : Nat) : Prop :=
  ∀ before a after, work before = (.ok a, after) → left after + k ≤ left before

/-- The number of lines that are still to be read. -/
def Console.left (console : Console) : Nat :=
  console.lines.length

/-! ## Generic rules for `Takes` -/

section Generic

variable {σ ε ε' α β : Type} {left : σ → Nat}

theorem takes_pure (a : α) : Takes left (pure a : ExceptT ε (StateM σ) α) 0 := by
  rintro before b after h
  cases h
  exact Nat.le_refl _

theorem takes_throw (e : ε) (k : Nat) : Takes left (throw e : ExceptT ε (StateM σ) α) k := by
  rintro before b after h
  cases h

theorem Takes.bind {work : ExceptT ε (StateM σ) α} {next : α → ExceptT ε (StateM σ) β} {k m : Nat}
    (hw : Takes left work k) (hn : ∀ a, Takes left (next a) m) :
    Takes left (work >>= next) (k + m) := by
  intro before b after h
  change (ExceptT.bindCont next (work before).1 : StateM σ (Except ε β)) (work before).2 = _ at h
  match hc : work before with
  | (.ok a, middle) =>
    rw [hc] at h
    have first := hw before a middle hc
    have second := hn a middle b after h
    omega
  | (.error e, middle) =>
    rw [hc] at h
    cases h

theorem Takes.mono {work : ExceptT ε (StateM σ) α} {k m : Nat} (hw : Takes left work k)
    (h : m ≤ k) : Takes left work m :=
  fun before a after run => Nat.le_trans (by omega) (hw before a after run)

theorem Takes.adapt {work : ExceptT ε (StateM σ) α} {k : Nat} (hw : Takes left work k)
    (f : ε → ε') : Takes left (ExceptT.adapt f work) k := by
  intro before a after h
  change ((work before).1.mapError f, (work before).2) = _ at h
  match hc : work before with
  | (.ok b, middle) =>
    have taken := hw before b middle hc
    rw [hc] at h
    cases h
    exact taken
  | (.error e, middle) =>
    rw [hc] at h
    cases h

end Generic

namespace Dialogue

variable {α : Type}

/-! ## Questions -/

theorem takes_say (text : String) : Takes Console.left (say text) 0 := by
  intro console a after h
  unfold say at h
  split at h <;> cases h
  exact Nat.le_refl _

theorem askLines_lines {prompt : String} {accept : String → Option α} {lines : List Line}
    {sink : Sink} {a : α} {after : Console}
    (h : askLines prompt accept lines sink = (.ok a, after)) :
    after.lines.length + 1 ≤ lines.length := by
  induction lines generalizing sink with
  | nil =>
    rw [askLines] at h
    split at h <;> cases h
  | cons line rest ih =>
    rw [askLines] at h
    split at h
    · cases h
    · split at h
      · cases h
      · split at h
        · cases h
          exact Nat.le_refl _
        · split at h
          · cases h
          · exact Nat.le_succ_of_le (ih h)

theorem takes_ask (prompt : String) (accept : String → Option α) :
    Takes Console.left (ask prompt accept) 1 :=
  fun _ _ _ h => askLines_lines h

theorem takes_inBounds (found : Option α) : Takes Console.left (inBounds found) 0 := by
  cases found with
  | some a => exact takes_pure a
  | none => exact takes_throw _ 0

theorem takes_choose (prompt : String) (label : α → String) (options : List α) :
    Takes Console.left (choose prompt label options) 1 := by
  unfold choose
  split
  · exact takes_throw _ _
  · exact (takes_ask _ _).bind fun _ => (takes_inBounds _).bind fun _ =>
      (takes_say _).bind fun _ => takes_pure _

end Dialogue

namespace Interview

open Dialogue

theorem takes_lift {α : Type} {d : Dialogue ConsoleError α} {k : Nat}
    (hd : Takes Console.left d k) : Takes Console.left (liftM d : Dialogue SessionError α) k :=
  Takes.adapt hd SessionError.console

theorem takes_accepted (targets : Except ParameterError TargetSequence) :
    Takes Console.left (accepted targets) 0 := by
  cases targets with
  | ok targets => exact takes_pure targets
  | error error => exact takes_throw _ 0

theorem takes_targetsOf (method : SearchMethod) : Takes Console.left (targetsOf method) 0 := by
  have asked (bits : Nat) (prompt : String) (least greatest : Nat)
      (make : Nat → Except ParameterError TargetSequence) :
      Takes Console.left
        (askCount bits prompt least greatest >>= fun count => accepted (make count)) 0 :=
    ((takes_ask _ _).bind fun _ => takes_accepted _).mono (Nat.zero_le _)
  cases method with
  | single => exact takes_pure _
  | multiple => exact asked _ _ _ _ _
  | arithmetic => exact asked _ _ _ _ _
  | geometric => exact asked _ _ _ _ _

theorem takes_targets : Takes Console.left targets 1 :=
  (takes_choose _ _ _).bind fun method => takes_targetsOf method

theorem takes_outputWidth (width : OutputWidth) : Takes Console.left (outputWidth width) 0 := by
  cases width with
  | fixed width => exact takes_pure width
  | dynamic => exact (takes_ask _ _).mono (Nat.zero_le _)

theorem takes_fromCatalog {α : Type} (result : Except CatalogError α) :
    Takes Console.left (fromCatalog result) 0 := by
  cases result with
  | ok a => exact takes_pure a
  | error error => exact takes_throw _ 0

theorem takes_search (catalog : Catalog) (mode : Mode) :
    Takes Console.left (search catalog mode) 4 :=
  (takes_lift (takes_choose _ _ _)).bind fun _ =>
    (takes_lift takes_targets).bind fun _ =>
      (takes_lift (takes_ask _ _)).bind fun _ =>
        (takes_fromCatalog _).bind fun _ =>
          (takes_lift (takes_outputWidth _)).bind fun _ =>
            (takes_lift (takes_ask _ _)).bind fun _ => takes_fromCatalog _

/-- Every turn of the main menu takes a line. -/
theorem takes_request (catalog : Catalog) : Takes Console.left (request catalog) 1 := by
  refine Takes.mono (k := 1 + 0) ((takes_lift (takes_choose _ _ _)).bind fun option => ?_)
    (Nat.le_refl _)
  cases option with
  | analyze =>
    exact ((takes_search catalog .analyze).bind fun _ => takes_pure _).mono (Nat.zero_le _)
  | simulate =>
    exact ((takes_search catalog .simulate).bind fun _ => takes_pure _).mono (Nat.zero_le _)
  | help => exact takes_pure _
  | quit => exact takes_pure _

end Interview

end PreimageSearch
