import DeviceLink.Context
import DeviceLink.Proofs.Config.Acceptance

/-!
# The names of the workers' threads

A thread's name can be shown whole if it has fifteen bytes at most, and a thread cannot be started
at all under a name with a zero byte in it.  A worker's name is what the settings put in front of a
word of nine bytes.  The rule for that counts characters, and lets eight of them pass: six bytes are
what there is room for.

* `utf8`, `zero_mem_utf8_iff` — the bytes of a text, and when one of them is zero.
* `length_utf8_bounds` — a character has one to four bytes.
* `FitsPlatform` — a name that a thread can have, and that can be shown whole.
* **`fitsPlatform_iff`** — the worker's names that fit, among those of settings that are accepted.
* `accepted_unfit` — settings that are accepted, though the names do not fit.
-/

namespace DeviceLink

/-! ## Bytes -/

/-- The bytes of a text. -/
def utf8 (text : String) : List UInt8 := text.toByteArray.data.toList

lemma utf8_eq (text : String) : utf8 text = text.toList.flatMap String.utf8EncodeChar := by
  conv_lhs => rw [← String.ofList_toList (s := text)]
  rw [utf8, String.toByteArray_ofList, List.utf8Encode, List.toList_data_toByteArray]

lemma utf8_append (s t : String) : utf8 (s ++ t) = utf8 s ++ utf8 t := by
  rw [utf8_eq, utf8_eq, utf8_eq, String.toList_append, List.flatMap_append]

/-- A byte that starts a longer character, or goes on with one, is not zero. -/
lemma ofNat_ne_zero {n : Nat} (hlow : 128 ≤ n) (hhigh : n < 256) : UInt8.ofNat n ≠ 0 := by
  intro h
  have hn : n % 256 = 0 := (UInt8.toNat_ofNat' (n := n)).symm.trans (congrArg UInt8.toNat h)
  omega

/-- A character beyond the first 128 has no zero byte. -/
lemma ne_zero_of_mem_utf8EncodeChar {c : Char} (hc : 127 < c.toNat) :
    ∀ b ∈ String.utf8EncodeChar c, b ≠ 0 := by
  have hv : ¬ c.val.toNat ≤ 127 := Nat.not_le.mpr hc
  intro b hb
  simp only [String.utf8EncodeChar, if_neg hv] at hb
  split_ifs at hb with htwo hthree
  all_goals
    simp only [List.mem_cons, List.not_mem_nil, or_false] at hb
    rcases hb with rfl | rfl | rfl | rfl
  all_goals exact ofNat_ne_zero (by omega) (by omega)

/-- Only the zero character has a zero byte. -/
lemma zero_mem_utf8EncodeChar_iff (c : Char) : 0 ∈ String.utf8EncodeChar c ↔ c = Char.ofNat 0 := by
  by_cases hc : c.toNat ≤ 127
  · have hone : String.utf8EncodeChar c = [UInt8.ofNat c.toNat] := if_pos hc
    rw [hone, List.mem_singleton]
    refine ⟨fun hzero => ?_, fun he => by subst he; rfl⟩
    have hmod : 0 = c.toNat % 256 := (congrArg UInt8.toNat hzero).trans UInt8.toNat_ofNat'
    have hnone : c.toNat = 0 := by omega
    exact Char.toNat_inj.mp hnone
  · refine ⟨fun hzero => ?_, fun he => ?_⟩
    · exact (ne_zero_of_mem_utf8EncodeChar (Nat.lt_of_not_le hc) 0 hzero rfl).elim
    · subst he
      exact (hc (by decide)).elim

/-- **A zero byte** comes from a zero character, and from nothing else. -/
theorem zero_mem_utf8_iff (text : String) : 0 ∈ utf8 text ↔ Char.ofNat 0 ∈ text.toList := by
  rw [utf8_eq, List.mem_flatMap]
  constructor
  · rintro ⟨c, hc, hzero⟩
    exact (zero_mem_utf8EncodeChar_iff c).mp hzero ▸ hc
  · exact fun hc => ⟨_, hc, (zero_mem_utf8EncodeChar_iff _).mpr rfl⟩

/-- A character has one to four bytes. -/
lemma length_utf8_bounds (text : String) :
    text.length ≤ (utf8 text).length ∧ (utf8 text).length ≤ 4 * text.length := by
  rw [utf8_eq, ← String.length_toList]
  induction text.toList with
  | nil => exact ⟨Nat.le_refl 0, Nat.le_refl 0⟩
  | cons c cs ih =>
      have hlow := c.utf8Size_pos
      have hhigh := c.utf8Size_le_four
      rw [List.flatMap_cons, List.length_append, List.length_cons, String.length_utf8EncodeChar]
      omega

/-! ## Names -/

/-- **A name that a thread can have,** and that can be shown whole. -/
structure FitsPlatform (name : String) : Prop where
  short : (utf8 name).length ≤ 15
  unbroken : 0 ∉ utf8 name

/-- Each worker's word adds nine bytes, and none of them is zero. -/
lemma utf8_threadName (k : Context) (start : String) :
    ∃ word, utf8 (k.threadName start) = utf8 start ++ word ∧ word.length = 9 ∧ 0 ∉ word := by
  refine ⟨utf8 ("-" ++ k.word), ?_, ?_, ?_⟩
  · rw [Context.threadName, String.append_assoc, utf8_append]
  · cases k <;> rfl
  · cases k <;> decide

lemma fitsPlatform_threadName_iff (k : Context) (start : String) :
    FitsPlatform (k.threadName start) ↔
      (utf8 start).length ≤ 6 ∧ Char.ofNat 0 ∉ start.toList := by
  obtain ⟨word, hname, hlength, hzero⟩ := utf8_threadName k start
  rw [← zero_mem_utf8_iff]
  constructor
  · rintro ⟨hshort, hunbroken⟩
    rw [hname, List.length_append, hlength] at hshort
    rw [hname, List.mem_append] at hunbroken
    exact ⟨by omega, fun h => hunbroken (.inl h)⟩
  · rintro ⟨hshort, hunbroken⟩
    refine ⟨?_, ?_⟩
    · rw [hname, List.length_append, hlength]
      omega
    · rw [hname, List.mem_append]
      exact fun h => h.elim hunbroken hzero

/-- **Which names fit.**  Of settings that are accepted, a worker's name fits just if what stands in
front of it has six bytes at most, and no zero character; so there is room for six characters at
most.  All names have ten to forty-one bytes. -/
theorem fitsPlatform_iff (c : PipelineConfig) (haccepted : c.problems = []) (k : Context) :
    (FitsPlatform (k.threadName c.threadNamePrefix) ↔
      (utf8 c.threadNamePrefix).length ≤ 6 ∧ Char.ofNat 0 ∉ c.threadNamePrefix.toList) ∧
    (FitsPlatform (k.threadName c.threadNamePrefix) → c.threadNamePrefix.length ≤ 6) ∧
    10 ≤ (utf8 (k.threadName c.threadNamePrefix)).length ∧
    (utf8 (k.threadName c.threadNamePrefix)).length ≤ 41 := by
  have hiff := fitsPlatform_threadName_iff k c.threadNamePrefix
  have hvalid := (PipelineConfig.problems_eq_nil_iff c).mp haccepted
  obtain ⟨hlow, hhigh⟩ := length_utf8_bounds c.threadNamePrefix
  obtain ⟨hone, height⟩ := hvalid.threadNamePrefix
  obtain ⟨word, hname, hlength, -⟩ := utf8_threadName k c.threadNamePrefix
  rw [hname, List.length_append, hlength]
  exact ⟨hiff, fun hfits => Nat.le_trans hlow (hiff.mp hfits).1, by omega, by omega⟩

/-- Settings whose names are as long as can be. -/
def emojiConfig : PipelineConfig := { threadNamePrefix := "😀😀😀😀😀😀😀😀" }

/-- Eight characters are accepted, and their names have forty-one bytes. -/
theorem fitsPlatform_iff_of_emoji :
    emojiConfig.problems = [] ∧
      (utf8 (Context.callback.threadName emojiConfig.threadNamePrefix)).length = 41 ∧
      ¬ FitsPlatform (Context.callback.threadName emojiConfig.threadNamePrefix) := by
  have haccepted : emojiConfig.problems = [] := by
    rw [PipelineConfig.problems_eq_nil_iff]
    exact ⟨by decide, by decide, by decide⟩
  have hall := fitsPlatform_iff emojiConfig haccepted .callback
  refine ⟨haccepted, by decide, fun hfits => ?_⟩
  have hsix := hall.2.1 hfits
  exact absurd hsix (by decide)

/-- A zero character in front of both names. -/
def zeroConfig : PipelineConfig := { threadNamePrefix := String.singleton (Char.ofNat 0) }

/-- **Settings that are accepted, though the names do not fit:** the defaults, whose pipeline worker
has a name of sixteen bytes, and a zero character, under which no thread can be started. -/
theorem accepted_unfit :
    ({} : PipelineConfig).problems = [] ∧
      (utf8 (Context.pipeline.threadName ({} : PipelineConfig).threadNamePrefix)).length = 16 ∧
      zeroConfig.problems = [] ∧
      0 ∈ utf8 (Context.pipeline.threadName zeroConfig.threadNamePrefix) := by
  refine ⟨?_, by decide, ?_, by decide⟩
  · exact (PipelineConfig.problems_eq_nil_iff _).mpr ⟨by decide, by decide, by decide⟩
  · exact (PipelineConfig.problems_eq_nil_iff _).mpr ⟨by decide, by decide, by decide⟩

end DeviceLink
