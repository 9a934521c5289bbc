import Worksheet.Settings.Config

/-!
# The counts in settings are words

A document of settings has integers of 64 bits with a sign, so that no count in it needs more.

* `Toml.Value.IsWord`, `Toml.Entries.AreWords` : integers of 63 bits and a sign, and entries without other integers;
* `Toml.isWord_of_readValue`, `Toml.areWords_of_parse?` : a document has no others at its outermost level;
* `Config.InWords` : a limit that is made of words; `Config.inWords_of_parse` : every one that is read.
-/

namespace Worksheet

-- powers of numbers are those of `Nat.pow` and `Int.pow`
attribute [local instance (high)] instPowNat

namespace Toml

/-! ## Values -/

/-- Whether a value is no integer past the last one of 64 bits with a sign. -/
def Value.IsWord : Value → Prop
  | .int n => n < 2 ^ (63 : Nat)
  | _ => True

def Entries.AreWords (es : Entries) : Prop :=
  ∀ e ∈ es, e.2.IsWord

theorem isWord_of_word? {n : Int} {v : Value} (h : word? n = some v) : v.IsWord := by
  unfold word? at h
  split at h
  · next hbounds =>
    cases h
    exact hbounds.2
  · cases h

theorem isWord_of_based? {base : Nat} {cs : List Char} {v : Value} (h : based? base cs = some v) : v.IsWord := by
  obtain ⟨ds, -, h⟩ := Option.bind_eq_some_iff.mp h
  obtain ⟨values, -, h⟩ := Option.bind_eq_some_iff.mp h
  exact isWord_of_word? h

theorem isWord_of_decimal? {cs : List Char} {v : Value} (h : decimal? cs = some v) : v.IsWord := by
  obtain ⟨ds, -, h⟩ := Option.bind_eq_some_iff.mp h
  exact isWord_of_word? h

theorem isWord_of_scalar? {cs : List Char} {v : Value} (h : scalar? cs = some v) : v.IsWord := by
  unfold scalar? at h
  split at h
  · cases h
    trivial
  · split at h
    · cases h
      trivial
    · split at h
      · exact isWord_of_based? h
      · exact isWord_of_based? h
      · exact isWord_of_based? h
      · cases hdecimal : decimal? cs with
        | some w =>
          rw [hdecimal] at h
          cases h
          exact isWord_of_decimal? hdecimal
        | none =>
          rw [hdecimal] at h
          simp only [Option.orElse_eq_orElse, Option.orElse_eq_or, Option.none_or] at h
          split at h
          · cases h
            trivial
          · cases h

theorem isWord_of_readValue {fuel : Nat} {cs rest : List Char} {v : Value}
    (h : readValue fuel cs = some (v, rest)) : v.IsWord := by
  cases fuel with
  | zero => cases h
  | succ fuel =>
    unfold readValue at h
    split at h
    · obtain ⟨s, -, heq⟩ := Option.map_eq_some_iff.mp h
      cases heq
      trivial
    · obtain ⟨s, -, heq⟩ := Option.map_eq_some_iff.mp h
      cases heq
      trivial
    · obtain ⟨items, -, heq⟩ := Option.map_eq_some_iff.mp h
      cases heq
      trivial
    · split at h
      · cases h
        trivial
      · obtain ⟨es, -, heq⟩ := Option.map_eq_some_iff.mp h
        cases heq
        trivial
    · obtain ⟨w, hw, heq⟩ := Option.map_eq_some_iff.mp h
      cases heq
      exact isWord_of_scalar? hw

/-! ## Entries -/

namespace Entries.AreWords

variable {es es' : Entries} (hes : es.AreWords)
include hes

theorem put {v : Value} (hv : v.IsWord) (key : String) : AreWords (Toml.put key v es) := by
  induction es with
  | nil => exact fun e he => List.mem_singleton.mp he ▸ hv
  | cons e es ih =>
    obtain ⟨he, hrest⟩ := List.forall_mem_cons.mp hes
    rw [Toml.put]
    split
    · exact List.forall_mem_cons.mpr ⟨hv, hrest⟩
    · exact List.forall_mem_cons.mpr ⟨he, ih hrest⟩

theorem put_table (key : String) (origin : Origin) (t : Entries) : AreWords (Toml.put key (.table origin t) es) := by
  have hv : (Value.table origin t).IsWord := trivial
  exact hes.put hv key

theorem put_tables (key : String) (items : List Value) : AreWords (Toml.put key (.tables items) es) := by
  have hv : (Value.tables items).IsWord := trivial
  exact hes.put hv key

theorem assign {v : Value} (hv : v.IsWord) {path : List String} (h : Toml.assign v path es = some es') :
    AreWords es' := by
  unfold Toml.assign at h
  split at h
  · cases h
  · split at h
    · cases h
    · cases h
      exact List.forall_mem_append.mpr ⟨hes, fun e he => List.mem_singleton.mp he ▸ hv⟩
  · split at h
    · obtain ⟨t, -, rfl⟩ := Option.map_eq_some_iff.mp h
      exact hes.put_table _ _ _
    · obtain ⟨t, -, rfl⟩ := Option.map_eq_some_iff.mp h
      exact hes.put_table _ _ _
    · cases h

theorem declareTable {k : String} (h : Toml.declareTable k es = some es') : AreWords es' := by
  unfold Toml.declareTable at h
  split at h
  · cases h
    exact hes.put_table k _ _
  · cases h
    exact hes.put_table k _ _
  · cases h

theorem declareElement {k : String} (h : Toml.declareElement k es = some es') : AreWords es' := by
  unfold Toml.declareElement at h
  split at h
  · cases h
    exact hes.put_tables k _
  · cases h
    exact hes.put_tables k _
  · cases h

theorem inTable {change : Entries → Option Entries} (hchange : change es = some es' → AreWords es')
    {path : List String} (h : Toml.inTable change path es = some es') : AreWords es' := by
  unfold Toml.inTable at h
  split at h
  · exact hchange h
  · split at h
    · obtain ⟨t, -, rfl⟩ := Option.map_eq_some_iff.mp h
      exact hes.put_table _ _ _
    · cases h
    · obtain ⟨t, -, rfl⟩ := Option.map_eq_some_iff.mp h
      exact hes.put_table _ _ _
    · obtain ⟨t, -, rfl⟩ := Option.map_eq_some_iff.mp h
      exact hes.put_tables _ _
    · cases h

end Entries.AreWords

/-! ## Documents -/

def Line.IsWord : Line → Prop
  | .header _ _ => True
  | .value _ v => v.IsWord

theorem isWord_of_readLine {cs rest : List Char} {line : Line} (h : readLine cs = some (line, rest)) :
    line.IsWord := by
  unfold readLine at h
  split at h
  · obtain ⟨⟨path, afterPath⟩, -, h⟩ := Option.bind_eq_some_iff.mp h
    dsimp only at h
    split at h
    · cases h
      trivial
    · cases h
  · obtain ⟨⟨path, afterPath⟩, -, h⟩ := Option.bind_eq_some_iff.mp h
    dsimp only at h
    split at h
    · cases h
      trivial
    · cases h
  · obtain ⟨⟨path, afterPath⟩, -, h⟩ := Option.bind_eq_some_iff.mp h
    dsimp only at h
    split at h
    · obtain ⟨⟨v, afterValue⟩, hv, h⟩ := Option.bind_eq_some_iff.mp h
      cases h
      exact isWord_of_readValue hv
    · cases h

theorem isWord_of_readLines {fuel : Nat} {cs : List Char} {lines : List Line} (h : readLines fuel cs = some lines) :
    ∀ line ∈ lines, line.IsWord := by
  induction fuel generalizing cs lines with
  | zero => cases h
  | succ fuel ih =>
    rw [readLines] at h
    split at h
    · cases h
      exact fun line hline => absurd hline List.not_mem_nil
    · obtain ⟨⟨line, afterLine⟩, hline, h⟩ := Option.bind_eq_some_iff.mp h
      obtain ⟨rest, -, h⟩ := Option.bind_eq_some_iff.mp h
      obtain ⟨lines', hlines, h⟩ := Option.bind_eq_some_iff.mp h
      cases h
      exact List.forall_mem_cons.mpr ⟨isWord_of_readLine hline, ih hlines⟩

theorem Draft.areWords_add {d d' : Draft} (hd : d.entries.AreWords) {line : Line} (hline : line.IsWord)
    (h : d.add line = some d') : d'.entries.AreWords := by
  cases line with
  | header path element =>
    unfold Draft.add at h
    dsimp only at h
    split at h
    · cases h
    · obtain ⟨es, hes, rfl⟩ := Option.map_eq_some_iff.mp h
      refine hd.inTable (fun hchange => ?_) hes
      split at hchange
      · exact hd.declareElement hchange
      · exact hd.declareTable hchange
  | value path v =>
    obtain ⟨es, hes, rfl⟩ := Option.map_eq_some_iff.mp h
    exact hd.inTable (fun hchange => hd.assign hline hchange) hes

theorem Draft.areWords_foldlM {lines : List Line} (hlines : ∀ line ∈ lines, line.IsWord) {d d' : Draft}
    (hd : d.entries.AreWords) (h : lines.foldlM Draft.add d = some d') : d'.entries.AreWords := by
  induction lines generalizing d with
  | nil =>
    cases h
    exact hd
  | cons line lines ih =>
    obtain ⟨hline, hrest⟩ := List.forall_mem_cons.mp hlines
    rw [List.foldlM_cons] at h
    obtain ⟨next, hnext, h⟩ := Option.bind_eq_some_iff.mp h
    exact ih hrest (areWords_add hd hline hnext) h

theorem areWords_of_parse? {text : String} {es : Entries} (h : parse? text = some es) : es.AreWords := by
  obtain ⟨lines, hlines, h⟩ := Option.bind_eq_some_iff.mp h
  obtain ⟨d, hd, rfl⟩ := Option.map_eq_some_iff.mp h
  have hempty : Entries.AreWords [] := fun e he => absurd he List.not_mem_nil
  exact Draft.areWords_foldlM (isWord_of_readLines hlines) hempty hd

end Toml

/-! ## Settings -/

namespace Config

/-- Whether the limit of a stored sheet is made of words. -/
structure InWords (c : Config) : Prop where
  columns : c.maxColumns < wordBound
  rows : c.maxRows < wordBound

theorem inWords_default : default.InWords := by
  constructor <;> decide

theorem lt_wordBound_of_count? {v : Toml.Value} (hv : v.IsWord) {n : Nat} (h : count? v = some n) :
    n < wordBound := by
  unfold count? at h
  split at h
  · next k =>
    split at h
    · cases h
      have hk : k < 2 ^ (63 : Nat) := hv
      unfold wordBound
      omega
    · cases h
  · cases h

theorem InWords.set {c c' : Config} (hc : c.InWords) {key : String} {v : Toml.Value} (hv : v.IsWord)
    (h : c.set key v = some c') : c'.InWords := by
  obtain ⟨hcolumns, hrows⟩ := hc
  unfold Config.set at h
  split at h
  · obtain ⟨n, -, rfl⟩ := Option.map_eq_some_iff.mp h
    exact ⟨hcolumns, hrows⟩
  · obtain ⟨n, -, rfl⟩ := Option.map_eq_some_iff.mp h
    exact ⟨hcolumns, hrows⟩
  · obtain ⟨n, hn, rfl⟩ := Option.map_eq_some_iff.mp h
    exact ⟨hcolumns, lt_wordBound_of_count? hv hn⟩
  · obtain ⟨n, hn, rfl⟩ := Option.map_eq_some_iff.mp h
    exact ⟨lt_wordBound_of_count? hv hn, hrows⟩
  · cases h
    exact ⟨hcolumns, hrows⟩
  · cases h
    exact ⟨hcolumns, hrows⟩
  · cases h
    exact ⟨hcolumns, hrows⟩
  · cases h
    exact ⟨hcolumns, hrows⟩
  · obtain ⟨o, -, rfl⟩ := Option.map_eq_some_iff.mp h
    exact ⟨hcolumns, hrows⟩
  · cases h

theorem InWords.ofEntries {es : Toml.Entries} (hes : es.AreWords) {c c' : Config} (hc : c.InWords)
    (h : es.foldlM (fun c e => c.set e.1 e.2) c = some c') : c'.InWords := by
  induction es generalizing c with
  | nil =>
    cases h
    exact hc
  | cons e es ih =>
    obtain ⟨he, hrest⟩ := List.forall_mem_cons.mp hes
    rw [List.foldlM_cons] at h
    obtain ⟨next, hnext, h⟩ := Option.bind_eq_some_iff.mp h
    exact ih hrest (hc.set he hnext) h

theorem inWords_of_parse {text path : String} {c : Config} (h : parse text path = .ok c) : c.InWords := by
  unfold parse at h
  split at h
  · next hread =>
    cases h
    obtain ⟨es, hes, hc⟩ := Option.bind_eq_some_iff.mp hread
    exact inWords_default.ofEntries (Toml.areWords_of_parse? hes) hc
  · cases h

end Config

end Worksheet
