import PreimageSearch.Proofs.Positional
import PreimageSearch.Session.Duration

/-!
# Durations as times of day

The text of a duration has four fields of two digits, which read as hours, minutes, seconds and
hundredths. Each field is cut out of the duration on its own; that they fit together is a matter of
mixed bases: the seconds since midnight are counted in sixties, sixties and twenty-fours
(`secondOfDay_eq`), and no part of a second carries over (`hundredthOfDay_eq`).
-/

namespace PreimageSearch.Duration

open Positional

/-! ## Fields -/

/-- Two decimal digits that write `n`. -/
def Field (cs : List Char) (n : Nat) : Prop :=
  cs.length = 2 ∧ Writes 10 cs n

theorem length_toList_twoDigits (n : Nat) : (twoDigits n).toList.length = 2 := by
  simp [twoDigits]

theorem field_twoDigits {n : Nat} (small : n < 100) : Field (twoDigits n).toList n := by
  refine ⟨length_toList_twoDigits n, writes_iff_foldl.2 ⟨[n / 10 % 10, n % 10], ?_, ?_⟩⟩
  · rw [twoDigits, String.toList_ofList]
    exact .cons ⟨Nat.mod_lt _ (by decide), .inl rfl⟩
      (.cons ⟨Nat.mod_lt _ (by decide), .inl rfl⟩ .nil)
  · change 10 * (10 * 0 + n / 10 % 10) + n % 10 = n
    omega

theorem toList_text (d : Duration) : d.text.toList =
    (twoDigits (d.seconds / 3600 % 24)).toList ++ ':' ::
      ((twoDigits (d.seconds / 60 % 60)).toList ++ ':' ::
        ((twoDigits (d.seconds % 60)).toList ++ '.' ::
          (twoDigits (d.nanoseconds / 10000000)).toList)) := by
  simp [text]

theorem length_text (d : Duration) : d.text.length = 11 := by
  rw [← String.length_toList, toList_text]
  simp only [List.length_append, List.length_cons, length_toList_twoDigits]

/-! ## Whole days dropped -/

theorem secondOfDay_eq (seconds : Nat) :
    (seconds / 3600 % 24 * 60 + seconds / 60 % 60) * 60 + seconds % 60 = seconds % 86400 := by
  have hours : seconds / 3600 = seconds / 60 / 60 := by rw [Nat.div_div_eq_div_mul]
  calc (seconds / 3600 % 24 * 60 + seconds / 60 % 60) * 60 + seconds % 60
    _ = seconds % 60 + 60 * (seconds / 60 % 60 + 60 * (seconds / 60 / 60 % 24)) := by
      rw [hours]
      ring
    _ = seconds % 60 + 60 * (seconds / 60 % (60 * 24)) := by rw [Nat.mod_mul]
    _ = seconds % (60 * (60 * 24)) := Nat.mod_mul.symm

/-- Whole days are whole seconds, so the hundredths of the last second are kept. -/
theorem hundredthOfDay_eq (d : Duration) :
    d.seconds % 86400 * 100 + d.nanoseconds / 10000000 =
      (d.seconds * 1000000000 + d.nanoseconds) / 10000000 % 8640000 := by
  have part := d.nanoseconds_lt
  have whole : (d.seconds * 1000000000 + d.nanoseconds) / 10000000 =
      d.seconds * 100 + d.nanoseconds / 10000000 := by omega
  rw [whole]
  omega

/-- The text of a duration is a time of day: eleven characters, two digits each for the hour, the
minute, the second and the hundredth, with colons and a point between them. Together they are the
whole hundredths of the duration, up to whole days. -/
theorem text_is_time_of_day (d : Duration) :
    d.text.length = 11 ∧
    ∃ (hh mm ss ff : List Char) (hours minutes seconds hundredths : Nat),
      d.text.toList = hh ++ ':' :: (mm ++ ':' :: (ss ++ '.' :: ff)) ∧
      Field hh hours ∧ Field mm minutes ∧ Field ss seconds ∧ Field ff hundredths ∧
      hours < 24 ∧ minutes < 60 ∧ seconds < 60 ∧ hundredths < 100 ∧
      ((hours * 60 + minutes) * 60 + seconds) * 100 + hundredths =
        (d.seconds * 1000000000 + d.nanoseconds) / 10000000 % 8640000 := by
  have hour : d.seconds / 3600 % 24 < 24 := Nat.mod_lt _ (by decide)
  have minute : d.seconds / 60 % 60 < 60 := Nat.mod_lt _ (by decide)
  have second : d.seconds % 60 < 60 := Nat.mod_lt _ (by decide)
  have hundredth : d.nanoseconds / 10000000 < 100 :=
    Nat.div_lt_of_lt_mul d.nanoseconds_lt
  refine ⟨length_text d, _, _, _, _, _, _, _, _, toList_text d,
    field_twoDigits (by omega), field_twoDigits (by omega), field_twoDigits (by omega),
    field_twoDigits hundredth, hour, minute, second, hundredth, ?_⟩
  rw [secondOfDay_eq, hundredthOfDay_eq]

example : text ⟨100 * 3600 + 59, 999999999, by decide⟩ = "04:00:59.99" := by decide

end PreimageSearch.Duration
