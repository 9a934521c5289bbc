import Worksheet.Proofs.Document.Continuation
import Worksheet.Proofs.Storage.Contents

/-!
# One cell is changed, or nothing

* `Edit.cell?`, `Document.text?_perform` : calls leave the cells that they do not name;
* `Document.Event`, `Document.meetAll` : what happens to an open document and to its store;
* `Document.IsStored`, `Document.Recovers` : a document whose store holds its snapshot, and one whose store will hold a
  text that it refused; `Document.HasStore.modified_perform`, `Document.HasStore.modified_meetAll` : a document stays
  modified until it is stored; `Document.HasStore.recovers`;
* `Document.set_outcomes` : what comes of storing a text in a cell.
-/

namespace Worksheet

open VisibleStore (held)

/-- The cell that a call stores text in, where it may. -/
def Edit.cell? : Edit → Option Coord
  | .set c _ => some c
  | .setNamed name _ => (Document.coordOf name).toOption
  | .addRow | .addColumn | .save => none

namespace Document

/-! ## The other cells -/

section

variable {σ : Type} [Store σ]

theorem rows_save (d : Document σ) : d.save.2.grid.rows = d.grid.rows := by
  rcases d.grid_save with h | h <;> rw [h]
  rfl

theorem text?_set_of_ne (d : Document σ) {b c : Coord} (h : b ≠ c) (raw : String) :
    (d.set b raw).2.grid.rows.text? c = d.grid.rows.text? c := by
  cases hb : d.checkEditable b with
  | error f => rw [set_error hb]
  | ok u =>
    rw [set_ok hb]
    dsimp only
    rw [rows_save, Grid.text?_set, if_neg h.symm]

theorem text?_perform (d : Document σ) {e : Edit} {c : Coord} (h : e.cell? ≠ some c) :
    (d.perform e).grid.rows.text? c = d.grid.rows.text? c := by
  cases e with
  | set b raw => exact d.text?_set_of_ne (fun hb => h (congrArg some hb)) raw
  | setNamed name raw =>
    show (d.setNamed name raw).2.grid.rows.text? c = _
    cases hname : coordOf name with
    | error f => rw [setNamed_error hname]
    | ok b =>
      have hb : b ≠ c := fun hb => h (by rw [Edit.cell?, hname, hb]; rfl)
      rw [setNamed_ok hname]
      exact d.text?_set_of_ne hb raw
  | addRow => rfl
  | addColumn => rfl
  | save => exact congrArg (Snapshot.text? · c) d.rows_save

end

/-! ## Documents and their stores -/

/-- What may happen to an open document: it is called, or others change its store. -/
inductive Event (σ : Type)
  | call (e : Edit)
  | others (s : σ)

variable {σ : Type} [VisibleStore σ]

def meet (d : Document σ) : Event σ → Document σ
  | .call e => d.perform e
  | .others s => { d with store := some s }

def meetAll (d : Document σ) (events : List (Event σ)) : Document σ :=
  events.foldl meet d

theorem text?_meetAll (d : Document σ) {events : List (Event σ)} {c : Coord}
    (h : ∀ e, .call e ∈ events → e.cell? ≠ some c) :
    (d.meetAll events).grid.rows.text? c = d.grid.rows.text? c := by
  induction events generalizing d with
  | nil => rfl
  | cons event events ih =>
    have hrest := ih (d.meet event) fun e he => h e (List.mem_cons_of_mem _ he)
    refine hrest.trans ?_
    cases event with
    | call e => exact d.text?_perform (h e List.mem_cons_self)
    | others s => rfl

def IsStored (key : String) (d : Document σ) : Prop :=
  ∃ s, d.store = some s ∧ held s key = some d.grid.snapshot.encode.toUTF8

structure IsStoredWith (key : String) (c : Coord) (raw : String) (d : Document σ) : Prop where
  stored : d.IsStored key
  text : d.grid.snapshot.text? c = some raw

/-- Whether a text that is in a document and not in its store yet gets there. Whatever happens, if no call names the
cell, the cell has the text, the next time that the document is written the text is written with it, and the document
stays modified until a call has written it. -/
def Recovers (key : String) (c : Coord) (raw : String) (d : Document σ) : Prop :=
  ∀ events : List (Event σ), (∀ e, .call e ∈ events → e.cell? ≠ some c) →
    (d.meetAll events).raw c = raw ∧
      ((d.meetAll events).save.1 = .ok true → (d.meetAll events).save.2.IsStoredWith key c raw) ∧
      ((d.meetAll events).grid.modified = true ∨ ∃ before e after, events = before ++ .call e :: after ∧
        (d.meetAll (before ++ [.call e])).IsStoredWith key c raw)

/-- Whether a document is kept in a store under a key. -/
structure HasStore (key : String) (d : Document σ) : Prop where
  saves : d.saveToStore = true
  key_eq : d.tableKey = key
  attached : d.store ≠ none

namespace HasStore

variable {key : String} {d : Document σ} (h : d.HasStore key)
include h

/-- Saving a document that is modified either stores it or leaves it modified. -/
theorem save_cases (hmodified : d.grid.modified = true) :
    d.save.1 = .ok true ∧ d.save.2.IsStored key ∨ (∃ f, d.save.1 = .error f) ∧ d.save.2.grid.modified = true := by
  obtain ⟨hidle, -⟩ | ⟨s, s', -, ⟨hwrite, heq⟩ | ⟨f, -, heq⟩⟩ := d.save_cases
  · rcases hidle with hsaves | hclean | hnone
    · cases h.saves.symm.trans hsaves
    · cases hmodified.symm.trans hclean
    · exact absurd hnone h.attached
  · rw [h.key_eq] at hwrite
    have hheld : held s' key = some d.grid.snapshot.encode.toUTF8 := by
      rw [VisibleStore.held_of_accepted hwrite, if_pos rfl]
    rw [heq]
    exact .inl ⟨rfl, s', rfl, hheld⟩
  · rw [heq]
    exact .inr ⟨⟨f, rfl⟩, hmodified⟩

theorem save : d.save.2.HasStore key := by
  obtain ⟨-, heq⟩ | ⟨s, s', -, ⟨-, heq⟩ | ⟨f, -, heq⟩⟩ := d.save_cases <;> rw [heq]
  · exact h
  · exact ⟨h.saves, h.key_eq, Option.some_ne_none s'⟩
  · exact ⟨h.saves, h.key_eq, Option.some_ne_none s'⟩

theorem isStored_of_save (hsave : d.save.1 = .ok true) : d.save.2.IsStored key := by
  obtain ⟨-, heq⟩ | ⟨s, s', ⟨-, hmodified, -⟩, -⟩ := d.save_cases
  · rw [heq] at hsave
    cases hsave
  · obtain ⟨-, hstored⟩ | ⟨⟨f, herror⟩, -⟩ := h.save_cases hmodified
    · exact hstored
    · cases hsave.symm.trans herror

theorem perform (e : Edit) : (d.perform e).HasStore key :=
  perform_induction h e (fun _ _ _ => ⟨h.saves, h.key_eq, h.attached⟩) (fun _ hd' => hd'.save)
    (fun _ => ⟨h.saves, h.key_eq, h.attached⟩) fun _ => ⟨h.saves, h.key_eq, h.attached⟩

theorem meetAll (events : List (Event σ)) : (d.meetAll events).HasStore key := by
  induction events generalizing d with
  | nil => exact h
  | cons event events ih =>
    cases event with
    | call e => exact ih (h.perform e)
    | others s => exact ih ⟨h.saves, h.key_eq, Option.some_ne_none s⟩

theorem modified_perform (hmodified : d.grid.modified = true) (e : Edit) :
    (d.perform e).grid.modified = true ∨ (d.perform e).IsStored key := by
  have hcall : (d.perform e).HasStore key ∧ ((d.perform e).grid.modified = true ∨ (d.perform e).IsStored key) := by
    refine perform_induction (P := fun d => d.HasStore key ∧ (d.grid.modified = true ∨ d.IsStored key))
      ⟨h, .inl hmodified⟩ e (fun c raw _ => ⟨⟨h.saves, h.key_eq, h.attached⟩, .inl rfl⟩) ?_
      (fun _ => ⟨⟨h.saves, h.key_eq, h.attached⟩, .inl hmodified⟩)
      fun _ => ⟨⟨h.saves, h.key_eq, h.attached⟩, .inl hmodified⟩
    rintro d' ⟨hd', hor⟩
    refine ⟨hd'.save, ?_⟩
    cases hd'modified : d'.grid.modified with
    | true =>
      rcases hd'.save_cases hd'modified with ⟨-, hstored⟩ | ⟨-, hstill⟩
      · exact .inr hstored
      · exact .inl hstill
    | false =>
      rw [save_of_clean hd'modified]
      exact hor
  exact hcall.2

/-- A modified document stays so until a call stores it, whatever else happens to it and to its store. -/
theorem modified_meetAll (hmodified : d.grid.modified = true) (events : List (Event σ)) :
    (d.meetAll events).grid.modified = true ∨
      ∃ before e after, events = before ++ .call e :: after ∧ (d.meetAll (before ++ [.call e])).IsStored key := by
  induction events generalizing d with
  | nil => exact .inl hmodified
  | cons event events ih =>
    have hlater : ∀ d', d.meet event = d' → d'.HasStore key → d'.grid.modified = true →
        (d.meetAll (event :: events)).grid.modified = true ∨ ∃ before e after,
          event :: events = before ++ .call e :: after ∧ (d.meetAll (before ++ [.call e])).IsStored key := by
      rintro _ rfl hd' hstill
      rcases ih hd' hstill with hend | ⟨before, e, after, rfl, hstored⟩
      · exact .inl hend
      · exact .inr ⟨event :: before, e, after, rfl, hstored⟩
    cases event with
    | call e =>
      rcases h.modified_perform hmodified e with hstill | hstored
      · exact hlater _ rfl (h.perform e) hstill
      · exact .inr ⟨[], e, events, rfl, hstored⟩
    | others s => exact hlater _ rfl ⟨h.saves, h.key_eq, Option.some_ne_none s⟩ hmodified

theorem recovers (hmodified : d.grid.modified = true) {c : Coord} {raw : String}
    (htext : d.grid.rows.text? c = some raw) : d.Recovers key c raw := by
  intro events hevents
  have hkept : (d.meetAll events).grid.rows.text? c = some raw := (d.text?_meetAll hevents).trans htext
  refine ⟨?_, fun hsave => ⟨(h.meetAll events).isStored_of_save hsave, ?_⟩, ?_⟩
  · exact (Grid.get_eq_text? _ c).trans (congrArg (·.getD "") hkept)
  · exact (congrArg (Snapshot.text? · c) (rows_save _)).trans hkept
  · rcases h.modified_meetAll hmodified events with hstill | ⟨before, e, after, rfl, hstored⟩
    · exact .inl hstill
    · refine .inr ⟨before, e, after, rfl, hstored, (d.text?_meetAll fun a ha => hevents a ?_).trans htext⟩
      rw [List.append_cons]
      exact List.mem_append_left after ha

end HasStore

/-! ## Storing a text -/

theorem set_of_unattached {d : Document σ} (h : d.saveToStore = false ∨ d.store = none) {c : Coord}
    (hc : d.checkEditable c = .ok ()) (raw : String) :
    d.set c raw = (.ok (), { d with grid := d.grid.set c raw }) := by
  rw [set_ok hc]
  obtain ⟨-, heq⟩ | ⟨s, s', ⟨hsaves, -, hstore⟩, -⟩ := save_cases { d with grid := d.grid.set c raw }
  · rw [heq]
    rfl
  · exfalso
    rcases h with h | h
    · cases h.symm.trans hsaves
    · cases h.symm.trans hstore

/-- A name that is none, a header and a place past the extent are refused, in this order, and nothing is changed.
Otherwise the cell has the text, and no other cell and no extent is changed. Where the document is kept in a store, the
answer is that of the store, asked to hold the new snapshot under the document's key. If the store accepts it, that is
what it holds there, and under other keys what it held before. If the store refuses it, it holds under each key what it
held before, and the document is modified and has the text, which gets into the store when a later save succeeds. -/
theorem set_outcomes (d : Document σ) (raw : String) :
    (∀ name, CellRef.ofName? name = none → d.setNamed name raw = (.error (.invalidCellRef name), d)) ∧
    (∀ name r, CellRef.ofName? name = some r → d.setNamed name raw =
      ((d.set r.toCoord raw).1.map fun _ => r.toCoord, (d.set r.toCoord raw).2)) ∧
    ∀ c,
      (c.isHeader = true → d.set c raw = (.error (.headerCell c), d)) ∧
      (c.isHeader = false → d.grid.extent.contains c = false →
        d.set c raw = (.error (.outsideExtent c d.grid.extent), d)) ∧
      (c.isHeader = false → d.grid.extent.contains c = true → ∀ answer d', d.set c raw = (answer, d') →
        d'.raw c = raw ∧ (∀ b ≠ c, d'.raw b = d.raw b) ∧ d'.grid.extent = d.grid.extent ∧
        (d.saveToStore = false ∨ d.store = none → answer = .ok () ∧ d'.store = d.store) ∧
        ∀ s, d.saveToStore = true → d.store = some s → ∃ s', d'.store = some s' ∧
          answer = (Store.write s d.tableKey (d.grid.set c raw).snapshot.encode).1 ∧
          (answer = .ok () → d'.grid.modified = false ∧
            held s' d.tableKey = some d'.grid.snapshot.encode.toUTF8 ∧ ∀ k ≠ d.tableKey, held s' k = held s k) ∧
          ∀ f, answer = .error f → d'.grid.modified = true ∧ (∀ k, held s' k = held s k) ∧
            d'.Recovers d.tableKey c raw) := by
  refine ⟨fun name hname => ?_, fun name r hname => ?_, fun c => ⟨fun hheader => ?_, fun hheader hinside => ?_, ?_⟩⟩
  · exact setNamed_error (by rw [coordOf, hname]) d raw
  · exact setNamed_ok (by rw [coordOf, hname]) d raw
  · exact set_error (by rw [checkEditable, if_pos hheader]) raw
  · exact set_error (by simp [checkEditable, hheader, hinside]) raw
  · intro hheader hinside answer d' hset
    have hc : d.checkEditable c = .ok () := (d.checkEditable_eq_ok_iff c).mpr ⟨hheader, hinside⟩
    obtain rfl : (d.set c raw).1 = answer := congrArg Prod.fst hset
    obtain rfl : (d.set c raw).2 = d' := congrArg Prod.snd hset
    have hraw := d.raw_set hc raw
    refine ⟨(hraw c).trans (if_pos rfl), fun b hb => (hraw b).trans (if_neg hb), d.extent_set c raw,
      fun hunattached => ?_, fun s hsaves hstore => ?_⟩
    · rw [set_of_unattached hunattached hc]
      exact ⟨rfl, rfl⟩
    · obtain ⟨s', ⟨hwrite, heq⟩ | ⟨f, hwrite, heq⟩⟩ := set_cases hsaves hstore hc raw <;> rw [heq, hwrite]
      · have hheld := VisibleStore.held_of_accepted hwrite
        refine ⟨s', rfl, rfl, fun _ => ⟨rfl, (hheld _).trans (if_pos rfl), fun k hk => (hheld k).trans (if_neg hk)⟩,
          fun f herror => nomatch herror⟩
      · refine ⟨s', rfl, rfl, (nomatch ·), fun _ _ => ⟨rfl, VisibleStore.held_of_refused hwrite, ?_⟩⟩
        have hattached : HasStore d.tableKey { d with grid := d.grid.set c raw, store := some s' } :=
          ⟨hsaves, rfl, Option.some_ne_none s'⟩
        have htext : (d.grid.set c raw).rows.text? c = some raw := (Grid.text?_set d.grid c c raw).trans (if_pos rfl)
        exact hattached.recovers rfl htext

/-- An empty sheet that is kept in a directory where a directory stands in the place of its file. -/
def stuck : Document FileStore :=
  ofSnapshot .default .empty ⟨6, 10⟩
    (some ⟨.directory [("s", .directory [("gridData-default.json", .directory [])])], ["s"]⟩)

def cleared : FileStore :=
  ⟨.directory [("s", .directory [])], ["s"]⟩

theorem set_outcomes_stuck :
    (stuck.setNamed "1A" "x") = (.error (.invalidCellRef "1A"), stuck) ∧
      stuck.set ⟨0, 11⟩ "x" = (.error (.headerCell ⟨0, 11⟩), stuck) ∧
      stuck.set ⟨7, 1⟩ "x" = (.error (.outsideExtent ⟨7, 1⟩ ⟨6, 10⟩), stuck) ∧
      (stuck.set ⟨1, 1⟩ "x").1 = .error .io ∧ (stuck.set ⟨1, 1⟩ "x").2.grid.modified = true ∧
      ((stuck.set ⟨1, 1⟩ "x").2.meetAll [.call (.set ⟨2, 1⟩ "y"), .others cleared]).save.1 = .ok true ∧
      ((stuck.set ⟨1, 1⟩ "x").2.meetAll [.call (.set ⟨2, 1⟩ "y"), .others cleared]).save.2.IsStoredWith
        "gridData-default" ⟨1, 1⟩ "x" ∧
      ∃ s', ({ stuck with store := some cleared }.set ⟨1, 1⟩ "x").2.store = some s' ∧
        held s' "gridData-default" = some (stuck.grid.set ⟨1, 1⟩ "x").snapshot.encode.toUTF8 := by
  obtain ⟨hname, -, hcell⟩ := set_outcomes stuck "x"
  obtain ⟨-, -, hset⟩ := hcell ⟨1, 1⟩
  obtain ⟨-, -, -, -, hkept⟩ := hset rfl rfl _ _ rfl
  obtain ⟨s', -, -, -, hrefused⟩ := hkept _ rfl rfl
  have hio : (stuck.set ⟨1, 1⟩ "x").1 = .error .io := rfl
  obtain ⟨hmodified, -, hrecovers⟩ := hrefused .io hio
  have hevents : ∀ e, .call e ∈ [.call (.set ⟨2, 1⟩ "y"), Event.others cleared] → e.cell? ≠ some ⟨1, 1⟩ := by
    simp [Edit.cell?]
  have hsave : ((stuck.set ⟨1, 1⟩ "x").2.meetAll [.call (.set ⟨2, 1⟩ "y"), .others cleared]).save.1 = .ok true := rfl
  obtain ⟨-, -, hset'⟩ := (set_outcomes { stuck with store := some cleared } "x").2.2 ⟨1, 1⟩
  obtain ⟨-, -, -, -, hkept'⟩ := hset' rfl rfl _ _ rfl
  obtain ⟨s'', hstore, -, haccepted, -⟩ := hkept' cleared rfl rfl
  obtain ⟨-, hheld, -⟩ := haccepted rfl
  exact ⟨hname "1A" (by decide), (hcell ⟨0, 11⟩).1 rfl, (hcell ⟨7, 1⟩).2.1 rfl rfl, hio, hmodified, hsave,
    (hrecovers _ hevents).2.1 hsave, s'', hstore, hheld⟩

end Document

end Worksheet
