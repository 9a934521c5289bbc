import Worksheet.Sheet.Snapshot
import Worksheet.Proofs.SortedMap
import Worksheet.Proofs.Text.JsonString
import Worksheet.Proofs.Text.Scanning

/-!
# Snapshots are read back

* `readKey_toDigits`, `readString_quote` : keys and texts;
* `ReadsBack` : a way of reading that undoes a way of writing;
* `ReadsBack.members`, `ReadsBack.object` : it does so in objects;
* `decode?_encode` : the JSON text of a snapshot holds that snapshot, if its keys are words;
* `words_of_decode?` : the keys of every snapshot that is read are;
* `encode_stable` : writing what was read and reading it again changes nothing.
-/

namespace Worksheet.Snapshot

open Text Decimal

/-! ## Keys and texts -/

theorem skipBlanks_cons {c : Char} (h : isBlank c = false) (cs : List Char) : skipBlanks (c :: cs) = c :: cs := by
  rw [skipBlanks, List.dropWhile_cons_of_neg (by simp [h])]

theorem readKey_toDigits {n : Nat} (hn : n < wordBound) (rest : List Char) :
    readKey ('"' :: (Nat.toDigits 10 n ++ '"' :: rest)) = some (n, rest) := by
  have hnumber : ofDigits (Nat.toDigits 10 n) = n := ofDigits_toDigits n
  rw [readKey, takeDigits_toDigits n (Stops.cons (by decide) _)]
  cases hdigits : Nat.toDigits 10 n with
  | nil => exact absurd hdigits Nat.toDigits_ne_nil
  | cons d ds =>
    rw [hdigits] at hnumber
    have hlead : ¬(d = '0' ∧ ds ≠ []) := by
      rintro ⟨rfl, hne⟩
      exact hne (eq_nil_of_toDigits_zero n hdigits)
    simp only [if_neg hlead, hnumber, if_pos hn]

theorem readString_quote (raw : String) (rest : List Char) :
    readString (JsonString.quote raw.toList ++ rest) = some (raw, rest) := by
  have hbody := JsonString.readBody_quote raw.toList [] rest
  rw [JsonString.quote, List.cons_append, List.append_assoc, List.singleton_append, readString, hbody]
  simp

/-! ## Objects -/

/-- Whether a way of reading undoes a way of writing for the values that satisfy a condition. -/
structure ReadsBack {α : Type} (value : List Char → Option (α × List Char)) (write : α → List Char)
    (valid : α → Prop) : Prop where
  starts : ∀ v, ∃ c cs, write v = c :: cs ∧ isBlank c = false
  reads : ∀ v, valid v → ∀ rest, value (write v ++ rest) = some (v, rest)

theorem readsBack_string : ReadsBack readString (fun raw => JsonString.quote raw.toList) fun _ => True where
  starts _ := ⟨_, _, rfl, by decide⟩
  reads raw _ rest := readString_quote raw rest

section

variable {α : Type} {value : List Char → Option (α × List Char)} {write : α → List Char} {valid : α → Prop}
  (h : ReadsBack value write valid)

def writeMember (write : α → List Char) (e : Nat × α) : List Char :=
  encodeMember e.1 (write e.2)

theorem intercalate_cons_cons (m n : List Char) (ms : List (List Char)) :
    [','].intercalate (m :: n :: ms) = m ++ ',' :: [','].intercalate (n :: ms) := by
  simp [List.intercalate]

include h

theorem ReadsBack.skipBlanks_write (v : α) (rest : List Char) :
    skipBlanks (write v ++ rest) = write v ++ rest := by
  obtain ⟨c, cs, hcs, hc⟩ := h.starts v
  rw [hcs, List.cons_append, skipBlanks_cons hc]

omit h in
theorem writeMember_append (write : α → List Char) (e : Nat × α) (rest : List Char) :
    writeMember write e ++ rest = '"' :: (Nat.toDigits 10 e.1 ++ '"' :: ':' :: (write e.2 ++ rest)) := by
  simp [writeMember, encodeMember]

theorem ReadsBack.readMembers_comma {e : Nat × α} (hkey : e.1 < wordBound) (hvalid : valid e.2) (fuel : Nat)
    (members : List (Nat × α)) (rest : List Char) :
    readMembers value (fuel + 1) members (writeMember write e ++ ',' :: rest) =
      readMembers value fuel (e :: members) rest := by
  have hcolon : skipBlanks (':' :: (write e.2 ++ ',' :: rest)) = ':' :: (write e.2 ++ ',' :: rest) :=
    skipBlanks_cons (by decide) _
  have hcomma : skipBlanks (',' :: rest) = ',' :: rest := skipBlanks_cons (by decide) rest
  rw [writeMember_append, readMembers, skipBlanks_cons (by decide), readKey_toDigits hkey]
  simp only [Option.bind_eq_bind, Option.bind_some, hcolon, h.skipBlanks_write, h.reads e.2 hvalid, hcomma]

theorem ReadsBack.readMembers_close {e : Nat × α} (hkey : e.1 < wordBound) (hvalid : valid e.2) (fuel : Nat)
    (members : List (Nat × α)) (rest : List Char) :
    readMembers value (fuel + 1) members (writeMember write e ++ '}' :: rest) =
      some ((e :: members).reverse, rest) := by
  have hcolon : skipBlanks (':' :: (write e.2 ++ '}' :: rest)) = ':' :: (write e.2 ++ '}' :: rest) :=
    skipBlanks_cons (by decide) _
  have hclose : skipBlanks ('}' :: rest) = '}' :: rest := skipBlanks_cons (by decide) rest
  rw [writeMember_append, readMembers, skipBlanks_cons (by decide), readKey_toDigits hkey]
  simp only [Option.bind_eq_bind, Option.bind_some, hcolon, h.skipBlanks_write, h.reads e.2 hvalid, hclose]

theorem ReadsBack.members {entries : List (Nat × α)} (hne : entries ≠ [])
    (hvalid : ∀ e ∈ entries, e.1 < wordBound ∧ valid e.2) {fuel : Nat} (hfuel : entries.length ≤ fuel)
    (members : List (Nat × α)) (rest : List Char) :
    readMembers value fuel members ([','].intercalate (entries.map (writeMember write)) ++ '}' :: rest) =
      some (members.reverse ++ entries, rest) := by
  induction entries generalizing fuel members with
  | nil => exact absurd rfl hne
  | cons e entries ih =>
    obtain ⟨fuel, rfl⟩ := Nat.exists_eq_add_of_le' (Nat.le_trans (Nat.succ_le_succ (Nat.zero_le _)) hfuel)
    obtain ⟨hkey, hv⟩ := hvalid e List.mem_cons_self
    cases entries with
    | nil =>
      have hone : [','].intercalate ([e].map (writeMember write)) = writeMember write e := by
        simp [List.intercalate]
      rw [hone, h.readMembers_close hkey hv, List.reverse_cons]
    | cons f entries =>
      rw [List.map_cons, List.map_cons, intercalate_cons_cons, List.append_assoc, List.cons_append,
        h.readMembers_comma hkey hv]
      have hrest := ih (List.cons_ne_nil _ _) (fun e he => hvalid e (List.mem_cons_of_mem _ he))
        (Nat.le_of_succ_le_succ hfuel) (e :: members)
      rw [List.map_cons] at hrest
      rw [hrest, List.reverse_cons, List.append_assoc, List.singleton_append]

omit h in
theorem length_le_intercalate (entries : List (Nat × α)) :
    entries.length ≤ ([','].intercalate (entries.map (writeMember write))).length := by
  induction entries with
  | nil => exact Nat.zero_le _
  | cons e entries ih =>
    cases entries with
    | nil => simp [List.intercalate, writeMember, encodeMember]
    | cons f entries =>
      rw [List.map_cons] at ih
      rw [List.map_cons, List.map_cons, intercalate_cons_cons]
      simp only [List.length_append, List.length_cons] at ih ⊢
      omega

theorem ReadsBack.object :
    ReadsBack (readObject value) (fun m => encodeObject (m.entries.map (writeMember write)))
      fun m => ∀ e ∈ m.entries, e.1 < wordBound ∧ valid e.2 where
  starts _ := ⟨_, _, rfl, by decide⟩
  reads m hm rest := by
    cases hentries : m.entries with
    | nil =>
      have hempty : m = .empty := SortedMap.ext hentries
      rw [hempty]
      rfl
    | cons e entries =>
      rw [hentries] at hm
      have hobject : encodeObject ((e :: entries).map (writeMember write)) ++ rest =
          '{' :: ([','].intercalate ((e :: entries).map (writeMember write)) ++ '}' :: rest) := by
        rw [encodeObject, List.cons_append, List.append_assoc, List.singleton_append]
      obtain ⟨cs, hcs⟩ : ∃ cs, [','].intercalate ((e :: entries).map (writeMember write)) ++ '}' :: rest =
          '"' :: cs := by
        cases entries with
        | nil => exact ⟨_, rfl⟩
        | cons f entries =>
          rw [List.map_cons, List.map_cons, intercalate_cons_cons, List.append_assoc]
          exact ⟨_, rfl⟩
      have hfuel : (e :: entries).length ≤
          ([','].intercalate ((e :: entries).map (writeMember write)) ++ '}' :: rest).length := by
        rw [List.length_append]
        exact Nat.le_trans (length_le_intercalate (e :: entries)) (Nat.le_add_right _ _)
      have hmembers := h.members (List.cons_ne_nil _ _) hm hfuel [] rest
      rw [hobject, readObject, hcs, skipBlanks_cons (by decide)]
      rw [hcs] at hmembers
      show (readMembers value ('"' :: cs).length [] ('"' :: cs)).map _ = _
      rw [hmembers, List.reverse_nil, List.nil_append, ← hentries]
      show some (SortedMap.ofEntries m.entries, rest) = some (m, rest)
      rw [SortedMap.ofEntries_entries]

end

/-! ## Snapshots -/

def Words (s : Snapshot) : Prop :=
  ∀ row ∈ s.entries, row.1 < wordBound ∧ ∀ cell ∈ row.2.entries, cell.1 < wordBound

instance (s : Snapshot) : Decidable s.Words :=
  inferInstanceAs (Decidable (∀ row ∈ s.entries, row.1 < wordBound ∧ ∀ cell ∈ row.2.entries, cell.1 < wordBound))

theorem decode?_encode {s : Snapshot} (hs : s.Words) : decode? s.encode = some s := by
  have hvalid : ∀ row ∈ s.entries, row.1 < wordBound ∧
      ∀ cell ∈ row.2.entries, cell.1 < wordBound ∧ True := fun row hrow =>
    ⟨(hs row hrow).1, fun cell hcell => ⟨(hs row hrow).2 cell hcell, trivial⟩⟩
  have hread : readObject (readObject readString) (s.encodeChars ++ []) = some (s, []) :=
    readsBack_string.object.object.reads s hvalid []
  rw [List.append_nil] at hread
  have hchars : s.encode.toList = s.encodeChars := String.toList_ofList
  have hvisible : Text.isBlank s.encode = false := by
    rw [Text.isBlank, hchars]
    rfl
  have hstart : skipBlanks s.encodeChars = s.encodeChars := skipBlanks_cons (by decide) _
  rw [decode?, hvisible, if_neg (by decide), hchars, readChars, hstart, hread]
  rfl

/-! ## What is read -/

theorem lt_wordBound_of_readKey {cs : List Char} {n : Nat} {rest : List Char} (h : readKey cs = some (n, rest)) :
    n < wordBound := by
  unfold readKey at h
  split at h
  · split at h
    · split at h
      · cases h
      · dsimp only at h
        split at h
        · next hn =>
          cases h
          exact hn
        · cases h
    · cases h
  · cases h

section

variable {α : Type} {value : List Char → Option (α × List Char)} {valid : α → Prop}
  (hvalue : ∀ {cs v rest}, value cs = some (v, rest) → valid v)
include hvalue

theorem forall_of_readMembers {fuel : Nat} {members entries : List (Nat × α)} {cs rest : List Char}
    (h : readMembers value fuel members cs = some (entries, rest))
    (hmembers : ∀ e ∈ members, e.1 < wordBound ∧ valid e.2) : ∀ e ∈ entries, e.1 < wordBound ∧ valid e.2 := by
  induction fuel generalizing members cs with
  | zero => cases h
  | succ fuel ih =>
    rw [readMembers] at h
    obtain ⟨⟨key, afterKey⟩, hkey, h⟩ := Option.bind_eq_some_iff.mp h
    dsimp only at h
    split at h
    · obtain ⟨⟨v, afterValue⟩, hv, h⟩ := Option.bind_eq_some_iff.mp h
      have hmore : ∀ e ∈ (key, v) :: members, e.1 < wordBound ∧ valid e.2 :=
        List.forall_mem_cons.mpr ⟨⟨lt_wordBound_of_readKey hkey, hvalue hv⟩, hmembers⟩
      dsimp only at h
      split at h
      · exact ih h hmore
      · cases h
        exact fun e he => hmore e (List.mem_reverse.mp he)
      · cases h
    · cases h

theorem forall_of_readObject {m : SortedMap α} {cs rest : List Char} (h : readObject value cs = some (m, rest)) :
    ∀ e ∈ m.entries, e.1 < wordBound ∧ valid e.2 := by
  unfold readObject at h
  split at h
  · split at h
    · cases h
      exact fun e he => absurd he List.not_mem_nil
    · obtain ⟨⟨entries, afterMembers⟩, hmembers, heq⟩ := Option.map_eq_some_iff.mp h
      cases heq
      exact fun e he => forall_of_readMembers hvalue hmembers (fun e he => absurd he List.not_mem_nil) e
        (SortedMap.mem_of_mem_ofEntries he)
  · cases h

end

theorem words_of_decode? {text : String} {s : Snapshot} (h : decode? text = some s) : s.Words := by
  unfold decode? at h
  split at h
  · cases h
    exact fun row hrow => absurd hrow List.not_mem_nil
  · unfold readChars at h
    split at h
    · next hread =>
      split at h
      · cases h
        have htext : ∀ {cs text rest}, readString cs = some (text, rest) → True := fun _ => trivial
        have hrow : ∀ {cs row rest}, readObject readString cs = some (row, rest) →
            ∀ cell ∈ row.entries, cell.1 < wordBound ∧ True :=
          forall_of_readObject htext
        intro row hmem
        obtain ⟨hkey, hcells⟩ := forall_of_readObject hrow hread row hmem
        exact ⟨hkey, fun cell hcell => (hcells cell hcell).1⟩
      · cases h
    · cases h

/-- A snapshot is read back from its JSON text exactly if its keys are words. Those of a snapshot that is read from
any text are, so that it and its own text stay the same from then on. -/
theorem encode_stable :
    (∀ s : Snapshot, decode? s.encode = some s ↔ s.Words) ∧
      ∀ (text : String) (s : Snapshot), decode? text = some s →
        decode? s.encode = some s ∧ (decode? s.encode).map encode = some s.encode := by
  refine ⟨fun s => ⟨words_of_decode?, decode?_encode⟩, fun text s h => ?_⟩
  have hback : decode? s.encode = some s := decode?_encode (words_of_decode? h)
  exact ⟨hback, by rw [hback, Option.map_some]⟩

/-- A row without cells, and a cell in the last column of the last row, with quotation marks, a backslash, control
characters and a character past the basic plane. -/
def farCorner : Snapshot :=
  .ofEntries [(0, .empty), (wordBound - 1, .ofEntries [(wordBound - 1, "\"\\\n\x01😀")])]

def spacedText : String :=
  " \x7b\"2\": \x7b\"1\":\"a\" , \"1\":\"\\ud83d\\ude00\\/\"\x7d\n\x7d "

def spaced : Snapshot :=
  .ofEntries [(2, .ofEntries [(1, "😀/")])]

theorem encode_stable_spaced :
    decode? farCorner.encode = some farCorner ∧ decode? spacedText = some spaced ∧
      decode? spaced.encode = some spaced ∧ (decode? spaced.encode).map encode = some spaced.encode := by
  have hread : decode? spacedText = some spaced := by decide +kernel
  exact ⟨(encode_stable.1 farCorner).mpr (by decide +kernel), hread, encode_stable.2 spacedText spaced hread⟩

end Worksheet.Snapshot
