import Worksheet.Proofs.Storage.Isolation

/-!
# Stores that are written to

* `Store.Writes` : a store came about by writes under one key, and this is the text that it last accepted there;
* `MemoryStore.get?_of_writes` : in memory that text is the one under the key, and other keys keep theirs;
* `FileStore.entry?_of_read` : what is read is the content of the key's file;
* `FileStore.write_ok_or_error` : an accepted text is the content of the key's file, and one that is refused
  leaves that file as it was;
* `FileStore.write_eq_ok_iff`, `FileStore.read_eq_textOf` : what an accepted write does, and what is read;
* `FileStore.read_of_write` : an accepted text is read back, unless it is too large;
* `FileStore.entry?_of_writes` : in a directory the key's file has that text.
-/

namespace Worksheet

/-- How a store came about from another one, in which a text stood under a key, by writes under that key alone: with
the text of the last write that was accepted, or still with the text that stood there. -/
inductive Store.Writes {σ : Type} [Store σ] (key : String) (start : σ) (text₀ : Option String) :
    σ → Option String → Prop
  | start : Writes key start text₀ start text₀
  | accepted {s s' : σ} {held : Option String} {text : String} (h : Writes key start text₀ s held)
      (hwrite : Store.write s key text = (.ok (), s')) : Writes key start text₀ s' (some text)
  | refused {s s' : σ} {held : Option String} {text : String} {f : Failure} (h : Writes key start text₀ s held)
      (hwrite : Store.write s key text = (.error f, s')) : Writes key start text₀ s' held

/-! ## Stores in memory -/

theorem MemoryStore.get?_of_writes {start s : MemoryStore} {key : String} {held : Option String}
    (h : Store.Writes key start (start.get? key) s held) :
    s.get? key = held ∧ ∀ k ≠ key, s.get? k = start.get? k := by
  induction h with
  | start => exact ⟨rfl, fun k _ => rfl⟩
  | @accepted s s' held text h hwrite ih =>
    obtain rfl : s.insert key text = s' := (Prod.mk.inj hwrite).2
    refine ⟨by rw [get?_insert, if_pos rfl], fun k hk => ?_⟩
    rw [get?_insert, if_neg hk, ih.2 k hk]
  | refused h hwrite => cases hwrite

/-! ## Stores in directories -/

namespace FileStore

theorem toUTF8_of_textOf {content : ByteArray} {text : String} (h : textOf content = .ok text) :
    text.toUTF8 = content := by
  unfold textOf String.fromUTF8? at h
  split at h
  · cases h
  · split at h
    · next s hs =>
      split at hs
      · obtain rfl := Except.ok.inj h
        obtain rfl := Option.some.inj hs
        rfl
      · cases hs
    · cases h

theorem entry?_of_read {s : FileStore} {key : String} {held : Option String} (h : s.read key = .ok held) :
    s.entry? key = held.map fun text => .file text.toUTF8 := by
  unfold read at h
  unfold entry?
  cases hpath : s.pathOf key with
  | error f =>
    rw [hpath] at h
    cases h
  | ok path =>
    obtain rfl : s.directory ++ [fileName key] = path := by
      unfold pathOf at hpath
      split at hpath
      · exact Except.ok.inj hpath
      · cases hpath
    simp only [hpath, bind, Except.bind] at h
    cases hentry : s.tree.find? (s.directory ++ [fileName key]) with
    | none =>
      rw [hentry] at h
      obtain rfl := Except.ok.inj h
      rfl
    | some t =>
      rw [hentry] at h
      cases t with
      | directory es => cases h
      | file content =>
        dsimp only at h
        cases htext : textOf content with
        | error f =>
          rw [htext] at h
          cases h
        | ok text =>
          rw [htext] at h
          obtain rfl := Except.ok.inj h
          rw [Option.map_some, toUTF8_of_textOf htext]

theorem textOf_toUTF8 {text : String} (h : text.utf8ByteSize ≤ sizeLimit) : textOf text.toUTF8 = .ok text := by
  have hsize : ¬sizeLimit < text.toUTF8.size := Nat.not_lt.mpr h
  have hvalid : text.toUTF8.IsValidUTF8 := text.isValidUTF8
  unfold textOf
  rw [if_neg hsize, String.fromUTF8?, dif_pos hvalid]
  rfl

theorem write_ok_or_error (s : FileStore) (key text : String) : ∃ t,
    (s.write key text = (.ok (), { s with tree := t }) ∧
      entry? { s with tree := t } key = some (.file text.toUTF8)) ∨
    ∃ f, s.write key text = (.error f, { s with tree := t }) ∧ entry? { s with tree := t } key = s.entry? key := by
  rcases s.write_cases key text with ⟨t, hwrite, hentries⟩ | ⟨f, s', hwrite, hinterrupted⟩
  · exact ⟨t, .inl ⟨hwrite, by rw [hentries, if_pos rfl]⟩⟩
  · have hs' : { s with tree := s'.tree } = s' := by rw [← hinterrupted.directory_eq]
    exact ⟨s'.tree, .inr ⟨f, by rw [hs', hwrite], by rw [hs', hinterrupted.entry?_eq]⟩⟩

theorem write_eq_ok_iff {s s' : FileStore} {key text : String} :
    s.write key text = (.ok (), s') ↔
      isKey key = true ∧ ∃ made drafted renamed, s.tree.makeDirectories s.directory = some made ∧
        made.write (draftName key) text.toUTF8 s.directory = some drafted ∧
          drafted.rename (draftName key) (fileName key) s.directory = some renamed ∧
            { s with tree := renamed } = s' := by
  unfold write
  generalize text.toUTF8 = content
  by_cases hkey : isKey key = true
  · rw [pathOf_eq_ok_iff.mpr ⟨hkey, rfl⟩]
    cases hmade : s.tree.makeDirectories s.directory with
    | none => simp [changed, followedBy]
    | some made =>
      cases hdrafted : made.write (draftName key) content s.directory with
      | none => simp [changed, followedBy, hdrafted]
      | some drafted =>
        cases hrenamed : drafted.rename (draftName key) (fileName key) s.directory <;>
          simp [changed, followedBy, hkey, hdrafted, hrenamed]
  · rw [pathOf, if_neg hkey]
    simp [hkey]

theorem read_eq_textOf {s : FileStore} {key : String} (hkey : isKey key = true) {content : ByteArray}
    (hentry : s.entry? key = some (.file content)) : s.read key = (textOf content).map some := by
  have hfile : s.tree.find? (s.directory ++ [fileName key]) = some (.file content) := hentry
  unfold read
  rw [pathOf_eq_ok_iff.mpr ⟨hkey, rfl⟩]
  simp only [bind, Except.bind, hfile]
  cases textOf content <;> rfl

theorem read_of_write {s s' : FileStore} {key text : String} (h : s.write key text = (.ok (), s'))
    (hsize : text.utf8ByteSize ≤ sizeLimit) : s'.read key = .ok (some text) := by
  rw [read_eq_textOf (write_eq_ok_iff.mp h).1 (entry?_of_write h), textOf_toUTF8 hsize]
  rfl

theorem entry?_of_writes {start s : FileStore} {key : String} {text₀ held : Option String}
    (hstart : start.entry? key = text₀.map fun text => .file text.toUTF8)
    (h : Store.Writes key start text₀ s held) : s.entry? key = held.map fun text => .file text.toUTF8 := by
  induction h with
  | start => exact hstart
  | @accepted s s' held text h hwrite ih =>
    obtain ⟨t, ⟨hok, hentry⟩ | ⟨f, herror, -⟩⟩ := s.write_ok_or_error key text
    · obtain rfl : { s with tree := t } = s' := (Prod.mk.inj (hok.symm.trans hwrite)).2
      exact hentry
    · cases (Prod.mk.inj (herror.symm.trans hwrite)).1
  | @refused s s' held text f h hwrite ih =>
    obtain ⟨t, ⟨hok, -⟩ | ⟨f', herror, hentry⟩⟩ := s.write_ok_or_error key text
    · cases (Prod.mk.inj (hok.symm.trans hwrite)).1
    · obtain rfl : { s with tree := t } = s' := (Prod.mk.inj (herror.symm.trans hwrite)).2
      exact hentry.trans ih

end FileStore

end Worksheet
