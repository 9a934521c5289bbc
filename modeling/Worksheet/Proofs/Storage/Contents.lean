import Worksheet.Proofs.Storage.History

/-!
# What a store holds

What is under a key of a store, whether or not it can be read.

* `VisibleStore` : stores that show what they hold;
* `FileTree.content?`, `FileStore.content?` : the content of a file, and of a key's file;
* stores in memory and stores in directories are such stores.
-/

namespace Worksheet

/-- A store that shows what it holds: under each key the bytes of a text, or nothing. A text that is read is the one
that is held. A text that is accepted takes the place of what was held under its key and of nothing else, and one that
is refused leaves everything in its place. -/
class VisibleStore (σ : Type) extends Store σ where
  held : σ → String → Option ByteArray
  held_of_read {s : σ} {key : String} {text : Option String} (h : Store.read s key = .ok text) :
    held s key = text.map String.toUTF8
  held_of_accepted {s s' : σ} {key text : String} (h : Store.write s key text = (.ok (), s')) (k : String) :
    held s' k = if k = key then some text.toUTF8 else held s k
  held_of_refused {s s' : σ} {key text : String} {f : Failure} (h : Store.write s key text = (.error f, s'))
    (k : String) : held s' k = held s k

instance : VisibleStore MemoryStore where
  held s key := (s.get? key).map String.toUTF8
  held_of_read h := congrArg (Option.map String.toUTF8) (Except.ok.inj h)
  held_of_accepted h k := by
    obtain rfl := (Prod.mk.inj h).2
    rw [MemoryStore.get?_insert]
    split <;> rfl
  held_of_refused h := by cases h

/-- The content of a file; a directory has none. -/
def FileTree.content? : FileTree → Option ByteArray
  | .file content => some content
  | .directory _ => none

def FileStore.content? (s : FileStore) (key : String) : Option ByteArray :=
  (s.entry? key).bind FileTree.content?

instance : VisibleStore FileStore where
  held := FileStore.content?
  held_of_read {s key text} h := by
    rw [FileStore.content?, FileStore.entry?_of_read h]
    cases text <;> rfl
  held_of_accepted {s s' key text} h k := by
    rcases s.write_cases key text with ⟨t, hwrite, hentries⟩ | ⟨f, s'', hwrite, -⟩
    · obtain rfl := (Prod.mk.inj (hwrite.symm.trans h)).2
      rw [FileStore.content?, hentries]
      split <;> rfl
    · cases hwrite.symm.trans h
  held_of_refused {s s' key text f} h k := by
    rcases s.write_cases key text with ⟨t, hwrite, -⟩ | ⟨f', s'', hwrite, hinterrupted⟩
    · cases hwrite.symm.trans h
    · obtain rfl := (Prod.mk.inj (hwrite.symm.trans h)).2
      rw [FileStore.content?, hinterrupted.entry?_eq, FileStore.content?]

end Worksheet
