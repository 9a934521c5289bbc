import Worksheet.Text.JsonString

/-!
# Quoted texts are read back

* `hex4?_control` : the escape of a control character spells its number;
* `readBody_escape` : one character after the other is read as it was written;
* `readBody_quote` : so is a whole text.
-/

namespace Worksheet.Text.JsonString

theorem hex4?_control : ∀ n < 32, hex4? '0' '0' (hexDigit (n / 16)) (hexDigit n) = some n := by
  decide

theorem readBody_simple {c d : Char} (hc : c ≠ 'u') (hd : simpleEscape? c = some d) (read cs : List Char) :
    readBody read ('\\' :: c :: cs) = readBody (d :: read) cs := by
  rw [readBody]
  · rw [hd]
    rfl
  · intro _ _ _ _ _ h
    exact absurd h hc

theorem readBody_control {c : Char} (hc : isControl c = true) (read cs : List Char) :
    readBody read ('\\' :: 'u' :: '0' :: '0' :: hexDigit (c.toNat / 16) :: hexDigit c.toNat :: cs) =
      readBody (c :: read) cs := by
  have hlt : c.toNat < 32 := by simpa [isControl] using hc
  rw [readBody, hex4?_control c.toNat hlt]
  show (if 0xDC00 ≤ c.toNat ∧ c.toNat < 0xE000 then none else _) = _
  rw [if_neg (by omega), if_neg (by omega), Char.ofNat_toNat]

theorem readBody_plain {c : Char} (hquote : c ≠ '"') (hslash : c ≠ '\\') (hcontrol : isControl c = false)
    (read cs : List Char) : readBody read (c :: cs) = readBody (c :: read) cs := by
  rw [readBody]
  · rw [if_neg (by simp [hslash, hcontrol])]
  · intro h
    exact absurd h hquote
  · intro _ _ _ _ _ h
    exact absurd h hslash
  · intro _ _ h
    exact absurd h hslash

/-- The characters with an escape of one letter. -/
def withLetter : List Char :=
  ['"', '\\', '\x08', '\x0c', '\n', '\r', '\t']

theorem escape_withLetter {c : Char} (h : c ∈ withLetter) :
    ∃ d, escape c = ['\\', d] ∧ d ≠ 'u' ∧ simpleEscape? d = some c := by
  simp only [withLetter, List.mem_cons, List.not_mem_nil, or_false] at h
  obtain rfl | rfl | rfl | rfl | rfl | rfl | rfl := h <;> exact ⟨_, rfl, by decide, rfl⟩

theorem escape_other {c : Char} (h : c ∉ withLetter) :
    escape c = if isControl c then ['\\', 'u', '0', '0', hexDigit (c.toNat / 16), hexDigit c.toNat] else [c] := by
  simp only [withLetter, List.mem_cons, List.not_mem_nil, or_false, not_or] at h
  obtain ⟨h1, h2, h3, h4, h5, h6, h7⟩ := h
  rw [escape, if_neg h1, if_neg h2, if_neg h3, if_neg h4, if_neg h5, if_neg h6, if_neg h7]

theorem readBody_escape (c : Char) (read cs : List Char) : readBody read (escape c ++ cs) = readBody (c :: read) cs := by
  by_cases hletter : c ∈ withLetter
  · obtain ⟨d, hescape, hd, hsimple⟩ := escape_withLetter hletter
    rw [hescape]
    exact readBody_simple hd hsimple read cs
  · rw [escape_other hletter]
    by_cases hcontrol : isControl c = true
    · rw [if_pos hcontrol]
      exact readBody_control hcontrol read cs
    · rw [if_neg hcontrol]
      have hquote : c ≠ '"' := fun h => hletter (h ▸ by decide)
      have hslash : c ≠ '\\' := fun h => hletter (h ▸ by decide)
      exact readBody_plain hquote hslash (by simpa using hcontrol) read cs

theorem readBody_quote (cs read rest : List Char) :
    readBody read (cs.flatMap escape ++ '"' :: rest) = some (read.reverse ++ cs, rest) := by
  induction cs generalizing read with
  | nil =>
    rw [List.flatMap_nil, List.nil_append, readBody, List.append_nil]
  | cons c cs ih =>
    rw [List.flatMap_cons, List.append_assoc, readBody_escape, ih, List.reverse_cons, List.append_assoc,
      List.singleton_append]

end Worksheet.Text.JsonString
