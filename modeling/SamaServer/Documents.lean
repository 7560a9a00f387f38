/-
Collections of a document store.  A collection is the list of its documents in
the order of their insertion, which is the order of their ids.  An update
touches the first document a filter finds; an upsert inserts a document when
the filter finds none.
-/
import Mathlib.Data.List.Basic

namespace SamaServer

universe u v

/-- The ids of documents, in the order in which the driver generates them. -/
abbrev ObjectId := Nat

namespace Documents

variable {D : Type u} {K : Type v}

def updateFirst (found : D → Bool) (update : D → D) : List D → List D
  | [] => []
  | document :: documents =>
      if found document then update document :: documents
      else document :: updateFirst found update documents

def upsert (found : D → Bool) (update : D → D) (inserted : D)
    (documents : List D) : List D :=
  if documents.any found then updateFirst found update documents
  else documents ++ [inserted]

/-- A selection by columns that the update leaves alone reads the same
afterwards. -/
theorem filter_map_updateFirst {found : D → Bool} {update : D → D}
    {column : D → K} {selected : D → Bool}
    (hcolumn : ∀ document, column (update document) = column document)
    (hselected : ∀ document,
      selected (update document) = selected document)
    (documents : List D) :
    ((updateFirst found update documents).filter selected).map column =
      (documents.filter selected).map column := by
  induction documents with
  | nil => rfl
  | cons document documents ih =>
      by_cases hfound : found document
      · by_cases hkept : selected document
        · simp [updateFirst, hfound, hselected, hkept, hcolumn]
        · simp [updateFirst, hfound, hselected, hkept]
      · by_cases hkept : selected document
        · simp [updateFirst, hfound, hkept, ih]
        · simp [updateFirst, hfound, hkept, ih]

theorem mem_updateFirst {found : D → Bool} {update : D → D}
    {documents : List D} {document : D}
    (hmem : document ∈ updateFirst found update documents) :
    document ∈ documents ∨
      ∃ old ∈ documents, found old ∧ document = update old := by
  induction documents with
  | nil => simp [updateFirst] at hmem
  | cons head documents ih =>
      by_cases hhead : found head
      · simp only [updateFirst, hhead, ↓reduceIte, List.mem_cons] at hmem
        rcases hmem with rfl | hrest
        · exact Or.inr ⟨head, List.mem_cons_self, hhead, rfl⟩
        · exact Or.inl (List.mem_cons_of_mem head hrest)
      · simp only [updateFirst, hhead, Bool.false_eq_true, ↓reduceIte,
          List.mem_cons] at hmem
        rcases hmem with rfl | hrest
        · exact Or.inl List.mem_cons_self
        · rcases ih hrest with hold | ⟨old, hold, hfound⟩
          · exact Or.inl (List.mem_cons_of_mem head hold)
          · exact Or.inr ⟨old, List.mem_cons_of_mem head hold, hfound⟩

/-- A document stays that the update does not find or does not change. -/
theorem mem_updateFirst_of_mem {found : D → Bool} {update : D → D}
    {documents : List D} {document : D} (hmem : document ∈ documents)
    (hkept : found document → update document = document) :
    document ∈ updateFirst found update documents := by
  induction documents with
  | nil => cases hmem
  | cons head documents ih =>
      by_cases hhead : found head
      · rw [updateFirst, if_pos hhead]
        rcases List.mem_cons.1 hmem with rfl | hrest
        · rw [hkept hhead]
          exact List.mem_cons_self
        · exact List.mem_cons_of_mem _ hrest
      · rw [updateFirst, if_neg hhead]
        rcases List.mem_cons.1 hmem with rfl | hrest
        · exact List.mem_cons_self
        · exact List.mem_cons_of_mem head (ih hrest)

theorem exists_updateFirst {found : D → Bool} {update : D → D}
    {documents : List D} (hany : documents.any found) :
    ∃ old ∈ documents, found old ∧
      update old ∈ updateFirst found update documents := by
  induction documents with
  | nil => simp at hany
  | cons head documents ih =>
      by_cases hhead : found head
      · refine ⟨head, List.mem_cons_self, hhead, ?_⟩
        rw [updateFirst, if_pos hhead]
        exact List.mem_cons_self
      · rw [List.any_cons, Bool.or_eq_true, or_iff_right hhead] at hany
        obtain ⟨old, hold, hfound, hmem⟩ := ih hany
        refine ⟨old, List.mem_cons_of_mem head hold, hfound, ?_⟩
        rw [updateFirst, if_neg hhead]
        exact List.mem_cons_of_mem head hmem

theorem mem_upsert {found : D → Bool} {update : D → D} {inserted : D}
    {documents : List D} {document : D}
    (hmem : document ∈ upsert found update inserted documents) :
    document ∈ documents ∨
      (∃ old ∈ documents, found old ∧ document = update old) ∨
      document = inserted := by
  rw [upsert] at hmem
  split at hmem
  · rcases mem_updateFirst hmem with hold | hnew
    · exact Or.inl hold
    · exact Or.inr (Or.inl hnew)
  · rcases List.mem_append.1 hmem with hold | hnew
    · exact Or.inl hold
    · exact Or.inr (Or.inr (List.mem_singleton.1 hnew))

theorem mem_upsert_of_mem {found : D → Bool} {update : D → D} {inserted : D}
    {documents : List D} {document : D} (hmem : document ∈ documents)
    (hkept : found document → update document = document) :
    document ∈ upsert found update inserted documents := by
  rw [upsert]
  split
  · exact mem_updateFirst_of_mem hmem hkept
  · exact List.mem_append_left _ hmem

/-- What was written is there. -/
theorem exists_mem_upsert (found : D → Bool) (update : D → D) (inserted : D)
    (documents : List D) :
    ∃ document ∈ upsert found update inserted documents,
      (∃ old ∈ documents, found old ∧ document = update old) ∨
        document = inserted := by
  rw [upsert]
  split
  · next hany =>
      obtain ⟨old, hold, hfound, hmem⟩ := exists_updateFirst hany
      exact ⟨update old, hmem, Or.inl ⟨old, hold, hfound, rfl⟩⟩
  · exact ⟨inserted, by simp, Or.inr rfl⟩

/-- The values of a column that the update leaves alone, after an upsert. -/
theorem exists_upsert_iff {found : D → Bool} {update : D → D} {inserted : D}
    {column : D → K} (hfound : ∀ document, found document →
      column document = column inserted)
    (hcolumn : ∀ document, column (update document) = column document)
    (documents : List D) (value : K) :
    (∃ document ∈ upsert found update inserted documents,
        column document = value) ↔
      (∃ document ∈ documents, column document = value) ∨
        column inserted = value := by
  have hwritten : ∀ document, ((∃ old ∈ documents, found old ∧
      document = update old) ∨ document = inserted) →
      column document = column inserted := by
    rintro document (⟨old, _, hold, rfl⟩ | rfl)
    · rw [hcolumn, hfound old hold]
    · rfl
  obtain ⟨new, hnew, hnewWritten⟩ :=
    exists_mem_upsert found update inserted documents
  constructor
  · rintro ⟨document, hmem, rfl⟩
    rcases mem_upsert hmem with hold | hwrote
    · exact Or.inl ⟨document, hold, rfl⟩
    · exact Or.inr (hwritten document hwrote).symm
  · rintro (⟨document, hmem, rfl⟩ | rfl)
    · by_cases hold : found document
      · refine ⟨new, hnew, ?_⟩
        rw [hwritten new hnewWritten, hfound document hold]
      · exact ⟨document, mem_upsert_of_mem hmem (fun h => absurd h hold), rfl⟩
    · exact ⟨new, hnew, hwritten new hnewWritten⟩

/-- The values of the column after a bulk of upserts, each for one value. -/
theorem exists_foldl_upsert_iff {found : K → D → Bool} {update : D → D}
    {inserted : K → D} {column : D → K}
    (hfound : ∀ value document, found value document →
      column document = value)
    (hinserted : ∀ value, column (inserted value) = value)
    (hcolumn : ∀ document, column (update document) = column document)
    (values : List K) (documents : List D) (value : K) :
    (∃ document ∈ values.foldl (fun documents each =>
        upsert (found each) update (inserted each) documents) documents,
        column document = value) ↔
      (∃ document ∈ documents, column document = value) ∨
        value ∈ values := by
  induction values generalizing documents with
  | nil => simp
  | cons first values ih =>
      rw [List.foldl_cons, ih, exists_upsert_iff _ hcolumn, hinserted,
        List.mem_cons, or_assoc, eq_comm]
      intro document hmem
      rw [hinserted]
      exact hfound first document hmem

/-- A key that the filter looks for stays unique. -/
theorem nodup_map_upsert {found : D → Bool} {update : D → D} {inserted : D}
    {key : D → K} (hfound : ∀ document,
      found document ↔ key document = key inserted)
    (hkey : ∀ document, key (update document) = key document)
    {documents : List D} (hnodup : (documents.map key).Nodup) :
    ((upsert found update inserted documents).map key).Nodup := by
  rw [upsert]
  split
  · have hsame : ((updateFirst found update documents).filter
        (fun _ => true)).map key =
        (documents.filter (fun _ => true)).map key :=
      filter_map_updateFirst hkey (fun _ => rfl) documents
    rw [List.filter_true, List.filter_true] at hsame
    rw [hsame]
    exact hnodup
  · next hnone =>
      rw [List.map_append, List.map_singleton, List.nodup_append]
      refine ⟨hnodup, List.pairwise_singleton _ _, ?_⟩
      intro old hold new hnew heq
      obtain ⟨document, hmem, rfl⟩ := List.mem_map.1 hold
      rw [List.mem_singleton.1 hnew] at heq
      exact hnone (List.any_eq_true.2 ⟨document, hmem,
        (hfound document).2 heq⟩)

/-- The first document that a wider filter finds, after an update. -/
theorem find?_updateFirst {found selected : D → Bool} {update : D → D}
    (hfound : ∀ document, found document → selected document)
    (hselected : ∀ document,
      selected (update document) = selected document)
    (documents : List D) :
    (updateFirst found update documents).find? selected =
      (documents.find? selected).map (fun document =>
        if found document then update document else document) := by
  induction documents with
  | nil => rfl
  | cons document documents ih =>
      by_cases hhead : found document
      · simp [updateFirst, hhead, hselected, hfound document hhead]
      · by_cases hkept : selected document
        · simp [updateFirst, hhead, hkept]
        · simp [updateFirst, hhead, hkept, ih]

/-- The only document that a wider filter selects, after its update. -/
theorem filter_updateFirst_singleton {found selected : D → Bool}
    {update : D → D} {documents : List D} {only : D}
    (hfound : ∀ document, found document → selected document)
    (hselected : ∀ document,
      selected (update document) = selected document)
    (hsingle : documents.filter selected = [only]) (honly : found only) :
    (updateFirst found update documents).filter selected =
      [update only] := by
  induction documents with
  | nil => simp at hsingle
  | cons document documents ih =>
      by_cases hhead : found document
      · have hkept := hfound document hhead
        rw [List.filter_cons_of_pos hkept] at hsingle
        obtain ⟨rfl, hrest⟩ := List.cons.inj hsingle
        simp [updateFirst, hhead, hselected, hkept, hrest]
      · by_cases hkept : selected document
        · rw [List.filter_cons_of_pos hkept] at hsingle
          obtain ⟨rfl, _⟩ := List.cons.inj hsingle
          exact absurd honly hhead
        · rw [List.filter_cons_of_neg hkept] at hsingle
          simpa [updateFirst, hhead, hkept] using ih hsingle

/-- How a server chooses the document of a query that asks for one.  It
takes one of those that match; which one is not specified. -/
structure Choice (D : Type u) where
  pick : List D → Option D
  mem : ∀ matched document, pick matched = some document →
    document ∈ matched
  isSome : ∀ matched, matched ≠ [] → (pick matched).isSome

namespace Choice

/-- The oldest document that matches. -/
def oldest : Choice D where
  pick := List.head?
  mem := fun _ _ hpick => List.mem_of_head? hpick
  isSome := fun matched hne => by
    cases matched with
    | nil => exact absurd rfl hne
    | cons document documents => rfl

variable (choice : Choice D)

@[simp] theorem pick_nil : choice.pick [] = none := by
  cases hpick : choice.pick [] with
  | none => rfl
  | some document => exact absurd (choice.mem [] document hpick) (by simp)

theorem pick_eq_none_iff (matched : List D) :
    choice.pick matched = none ↔ matched = [] := by
  constructor
  · intro hnone
    by_contra hne
    have hsome := choice.isSome matched hne
    rw [hnone] at hsome
    cases hsome
  · rintro rfl
    exact choice.pick_nil

end Choice

end Documents

end SamaServer
