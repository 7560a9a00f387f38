/-
Pages of a collection that is read from the largest key down.  What a page
leaves out lies below its last document, so a reader that goes on from there
misses nothing.
-/
import Mathlib.Algebra.Order.Floor.Div
import Mathlib.Data.List.Sort

namespace SamaServer

namespace Pages

universe u

variable {D : Type u} (key : D → Nat)

/-- The documents by descending keys. -/
def descending (documents : List D) : List D :=
  documents.insertionSort (fun a b => key b ≤ key a)

/-- A descending sort with a limit. -/
def page (limit : Nat) (documents : List D) : List D :=
  (descending key documents).take limit

/-- The documents with keys below a bound. -/
def below (bound : Nat) (documents : List D) : List D :=
  documents.filter (fun document => key document < bound)

theorem descending_perm (documents : List D) :
    (descending key documents).Perm documents :=
  List.perm_insertionSort _ documents

theorem descending_pairwise (documents : List D) :
    (descending key documents).Pairwise (fun a b => key b ≤ key a) := by
  have htotal : Std.Total (fun a b : D => key b ≤ key a) :=
    ⟨fun a b => Nat.le_total (key b) (key a)⟩
  have htrans : IsTrans D (fun a b : D => key b ≤ key a) :=
    ⟨fun a b c hab hbc => Nat.le_trans hbc hab⟩
  exact List.pairwise_insertionSort _ documents

variable {key} {limit : Nat} {documents : List D}

theorem mem_of_mem_page {document : D}
    (hmem : document ∈ page key limit documents) : document ∈ documents :=
  (descending_perm key documents).mem_iff.1 (List.mem_of_mem_take hmem)

theorem page_eq_nil_iff (hlimit : 0 < limit) :
    page key limit documents = [] ↔ documents = [] := by
  have hlength := (descending_perm key documents).length_eq
  rw [page, List.take_eq_nil_iff]
  constructor
  · intro hnil
    rcases hnil with hzero | hempty
    · omega
    · rw [hempty] at hlength
      exact List.length_eq_zero_iff.1 hlength.symm
  · intro hempty
    subst hempty
    exact Or.inr rfl

/-- The last document of a page has the least key of the page. -/
theorem last_le {last document : D}
    (hlast : (page key limit documents).getLast? = some last)
    (hmem : document ∈ page key limit documents) :
    key last ≤ key document := by
  obtain ⟨front, hpage⟩ := List.getLast?_eq_some_iff.1 hlast
  have hsorted := (descending_pairwise key documents).take (i := limit)
  change (page key limit documents).Pairwise _ at hsorted
  rw [hpage] at hsorted hmem
  rcases List.mem_append.1 hmem with hfront | htail
  · exact (List.pairwise_append.1 hsorted).2.2 document hfront last
      List.mem_cons_self
  · rw [List.mem_singleton.1 htail]

/-- A document that a page leaves out is not above its last one. -/
theorem le_last {last document : D}
    (hlast : (page key limit documents).getLast? = some last)
    (hmem : document ∈ documents)
    (hleft : document ∉ page key limit documents) :
    key document ≤ key last := by
  have hsorted := descending_pairwise key documents
  rw [← List.take_append_drop limit (descending key documents)] at hsorted
  have hall := (descending_perm key documents).mem_iff.2 hmem
  rw [← List.take_append_drop limit (descending key documents)] at hall
  rcases List.mem_append.1 hall with htaken | hdropped
  · exact absurd htaken hleft
  · exact (List.pairwise_append.1 hsorted).2.2 last
      (List.mem_of_getLast? hlast) document hdropped

/-- Below the last document of a page there is at most what the limit
cut off. -/
theorem length_below_last {last : D}
    (hlast : (page key limit documents).getLast? = some last) :
    (below key (key last) documents).length ≤ documents.length - limit := by
  have hperm := (descending_perm key documents).filter (fun document =>
      key document < key last)
  have htaken : (page key limit documents).filter (fun document =>
      key document < key last) = [] := by
    rw [List.filter_eq_nil_iff]
    intro document hmem
    have hle := last_le hlast hmem
    simp only [decide_eq_true_eq]
    omega
  rw [below, ← hperm.length_eq]
  calc ((descending key documents).filter _).length
      = ((page key limit documents).filter _ ++
          ((descending key documents).drop limit).filter _).length := by
        rw [page, ← List.filter_append, List.take_append_drop]
    _ = (((descending key documents).drop limit).filter _).length := by
        rw [htaken, List.nil_append]
    _ ≤ ((descending key documents).drop limit).length :=
        List.length_filter_le _ _
    _ = documents.length - limit := by
        rw [List.length_drop, (descending_perm key documents).length_eq]

/-- Distinct keys of the documents descend strictly. -/
theorem descending_strict (hkeys : (documents.map key).Nodup) :
    (descending key documents).Pairwise (fun a b => key b < key a) := by
  have hnodup : ((descending key documents).map key).Nodup :=
    ((descending_perm key documents).map key).nodup_iff.2 hkeys
  rw [List.Nodup, List.pairwise_map] at hnodup
  refine ((descending_pairwise key documents).and hnodup).imp ?_
  intro a b hboth
  exact Nat.lt_of_le_of_ne hboth.1 (Ne.symm hboth.2)

/-- Distinct keys leave one descending order. -/
theorem descending_eq {sorted : List D}
    (hsorted : sorted.Pairwise (fun a b => key b < key a))
    (hperm : sorted.Perm documents)
    (hkeys : (documents.map key).Nodup) :
    descending key documents = sorted := by
  refine List.Perm.eq_of_pairwise ?_ (descending_strict hkeys) hsorted
    ((descending_perm key documents).trans hperm.symm)
  intro a b _ _ hab hba
  exact absurd hab (Nat.lt_asymm hba)

/-- In a strictly descending list a document stands after those with larger
keys. -/
theorem mem_take_iff_of_strict
    (hstrict : documents.Pairwise (fun a b => key b < key a)) (limit : Nat)
    {document : D} :
    document ∈ documents.take limit ↔
      document ∈ documents ∧ (documents.filter (fun other =>
        key document < key other)).length < limit := by
  induction documents generalizing limit with
  | nil => simp
  | cons head documents ih =>
      obtain ⟨hhead, hrest⟩ := List.pairwise_cons.1 hstrict
      have hnone : documents.filter (fun other =>
          key head < key other) = [] := by
        refine List.filter_eq_nil_iff.2 (fun other hother => ?_)
        simpa using (hhead other hother).le
      cases limit with
      | zero => simp
      | succ limit =>
          rw [List.take_succ_cons, List.mem_cons, List.mem_cons, ih hrest]
          constructor
          · rintro (rfl | ⟨hmem, hlater⟩)
            · refine ⟨.inl rfl, ?_⟩
              rw [List.filter_cons_of_neg (by simp), hnone]
              exact Nat.succ_pos limit
            · refine ⟨.inr hmem, ?_⟩
              rw [List.filter_cons_of_pos (by simpa using hhead _ hmem),
                List.length_cons]
              exact Nat.succ_lt_succ hlater
          · rintro ⟨rfl | hmem, hlater⟩
            · exact .inl rfl
            · rw [List.filter_cons_of_pos (by simpa using hhead _ hmem),
                List.length_cons] at hlater
              exact .inr ⟨hmem, Nat.lt_of_succ_lt_succ hlater⟩

/-- A page has the documents that have fewer later ones than the limit. -/
theorem mem_page_iff (hkeys : (documents.map key).Nodup) {document : D} :
    document ∈ page key limit documents ↔
      document ∈ documents ∧ (documents.filter (fun other =>
        key document < key other)).length < limit := by
  have hperm := descending_perm key documents
  rw [page, mem_take_iff_of_strict (descending_strict hkeys), hperm.mem_iff,
    (hperm.filter _).length_eq]

/-- What lies below the last document of a page is what the limit cut
off, in the same order. -/
theorem descending_below_last {last : D}
    (hkeys : (documents.map key).Nodup)
    (hlast : (page key limit documents).getLast? = some last) :
    descending key (below key (key last) documents) =
      (descending key documents).drop limit := by
  have hstrict := descending_strict hkeys
  have hsplit := List.take_append_drop limit (descending key documents)
  have hstay : ((descending key documents).drop limit).filter
      (fun document => key document < key last) =
        (descending key documents).drop limit := by
    rw [List.filter_eq_self]
    intro document hmem
    rw [← hsplit, List.pairwise_append] at hstrict
    simpa using hstrict.2.2 last (List.mem_of_getLast? hlast) document hmem
  have hgone : (page key limit documents).filter
      (fun document => key document < key last) = [] := by
    rw [List.filter_eq_nil_iff]
    intro document hmem
    have hle := last_le hlast hmem
    simpa using hle
  have hfiltered : (descending key documents).filter
      (fun document => key document < key last) =
        (descending key documents).drop limit := by
    calc (descending key documents).filter _
        = (page key limit documents).filter _ ++
            ((descending key documents).drop limit).filter _ := by
          rw [page, ← List.filter_append, List.take_append_drop]
      _ = (descending key documents).drop limit := by
          rw [hgone, hstay, List.nil_append]
  refine descending_eq (hstrict.sublist (List.drop_sublist limit _)) ?_
    (hkeys.sublist (List.filter_sublist.map key))
  rw [← hfiltered]
  exact (descending_perm key documents).filter _

/-- A column that tells the documents apart tells those of a page apart. -/
theorem nodup_map_page {K : Type u} {column : D → K}
    (hnodup : (documents.map column).Nodup) :
    ((page key limit documents).map column).Nodup := by
  have hall : ((descending key documents).map column).Nodup :=
    ((descending_perm key documents).map column).nodup_iff.2 hnodup
  exact hall.sublist ((List.take_sublist limit _).map column)

/-! ### The pieces of a list -/

section Pieces

variable {size : Nat} {i : Nat}

/-- Piece `i` of a list that is cut into pieces of one size. -/
def piece (size : Nat) (documents : List D) (i : Nat) : List D :=
  (documents.drop (i * size)).take size

/-- The first pieces of a list. -/
def pieces (size : Nat) (documents : List D) (count : Nat) : List (List D) :=
  (List.range count).map (piece size documents)

theorem pieces_succ (size : Nat) (documents : List D) (count : Nat) :
    pieces size documents (count + 1) =
      pieces size documents count ++ [piece size documents count] := by
  rw [pieces, List.range_succ, List.map_append]
  rfl

@[simp] theorem length_pieces (size : Nat) (documents : List D)
    (count : Nat) : (pieces size documents count).length = count := by
  rw [pieces, List.length_map, List.length_range]

theorem length_piece (size : Nat) (documents : List D) (i : Nat) :
    (piece size documents i).length =
      min size (documents.length - i * size) := by
  rw [piece, List.length_take, List.length_drop]

/-- The pieces put together are the list up to their end. -/
theorem flatten_pieces (size : Nat) (documents : List D) (count : Nat) :
    (pieces size documents count).flatten =
      documents.take (count * size) := by
  induction count with
  | zero => simp [pieces]
  | succ count ih =>
      rw [pieces_succ, List.flatten_append, ih, Nat.succ_mul, List.take_add]
      simp [piece]

theorem flatten_pieces_all (hsize : 0 < size) :
    (pieces size documents (documents.length ⌈/⌉ size)).flatten =
      documents := by
  have hall := (ceilDiv_le_iff_le_mul hsize).1
    (Nat.le_refl (documents.length ⌈/⌉ size))
  rw [Nat.mul_comm] at hall
  rw [flatten_pieces, List.take_of_length_le hall]

/-- Pieces up to the end of the list are not empty. -/
theorem length_piece_pos (hsize : 0 < size)
    (hi : i < documents.length ⌈/⌉ size) :
    0 < (piece size documents i).length := by
  have hleft := mt (ceilDiv_le_iff_le_mul hsize).2 (Nat.not_le_of_lt hi)
  rw [Nat.mul_comm] at hleft
  rw [length_piece]
  omega

theorem length_of_mem_pieces (hsize : 0 < size) {part : List D}
    (hpart : part ∈ pieces size documents (documents.length ⌈/⌉ size)) :
    part ≠ [] ∧ part.length ≤ size := by
  obtain ⟨i, hi, rfl⟩ := List.mem_map.1 hpart
  have hpos := length_piece_pos hsize (List.mem_range.1 hi)
  have hlength := length_piece size documents i
  exact ⟨List.ne_nil_of_length_pos hpos, by omega⟩

/-- A piece before the last one is full. -/
theorem length_of_mem_dropLast_pieces (hsize : 0 < size) {part : List D}
    (hpart : part ∈
      (pieces size documents (documents.length ⌈/⌉ size)).dropLast) :
    part.length = size := by
  rw [List.dropLast_eq_take, length_pieces, pieces, ← List.map_take,
    List.take_range] at hpart
  obtain ⟨i, hi, rfl⟩ := List.mem_map.1 hpart
  have hi := List.mem_range.1 hi
  have hleft := mt (ceilDiv_le_iff_le_mul hsize).2
    (Nat.not_le_of_lt (show i + 1 < documents.length ⌈/⌉ size by omega))
  have hnext : size * (i + 1) = i * size + size := by
    rw [Nat.mul_comm, Nat.succ_mul]
  rw [length_piece]
  omega

end Pieces

/-! ### A reader that goes on below the last document of each page -/

section Batches

variable (key)

/-- The documents that are left for a reader with a cursor. -/
def belowCursor (cursor : Option Nat) (documents : List D) : List D :=
  match cursor with
  | none => documents
  | some bound => below key bound documents

/-- The pages that the reader gets. -/
def batches (limit : Nat) (documents : List D) :
    Option Nat → Nat → List (List D)
  | _, 0 => []
  | cursor, count + 1 =>
      let batch := page key limit (belowCursor key cursor documents)
      batch :: batches limit documents (batch.getLast?.map key) count

variable {key} {cursor : Option Nat}

theorem belowCursor_sublist (cursor : Option Nat) (documents : List D) :
    (belowCursor key cursor documents).Sublist documents := by
  cases cursor with
  | none => exact List.Sublist.refl _
  | some bound => exact List.filter_sublist

/-- A cursor only moves down. -/
theorem belowCursor_last {last : D}
    (hlast : last ∈ belowCursor key cursor documents) :
    belowCursor key (some (key last)) documents =
      below key (key last) (belowCursor key cursor documents) := by
  cases cursor with
  | none => rfl
  | some bound =>
      have hbound : key last < bound := by
        simpa using (List.mem_filter.1 hlast).2
      rw [belowCursor, belowCursor, below, below, below, List.filter_filter]
      refine List.filter_congr (fun document _ => ?_)
      by_cases hbelow : key document < key last
      · simp [hbelow, hbelow.trans hbound]
      · simp [hbelow]

/-- The pages put together are all documents by descending keys, when there
are as many pages as the documents fill. -/
theorem flatten_batches (hkeys : (documents.map key).Nodup)
    (hlimit : 0 < limit) {count : Nat} {cursor : Option Nat}
    (hcount : ∀ pages, (belowCursor key cursor documents).length ≤
      pages * limit ↔ count ≤ pages) :
    (batches key limit documents cursor count).flatten =
      descending key (belowCursor key cursor documents) := by
  induction count generalizing cursor with
  | zero =>
      have hempty : belowCursor key cursor documents = [] := by
        simpa using (hcount 0).2 (Nat.le_refl 0)
      rw [hempty]
      rfl
  | succ count ih =>
      have hne : page key limit (belowCursor key cursor documents) ≠ [] := by
        intro hnil
        rw [page_eq_nil_iff hlimit] at hnil
        have hzero := (hcount 0).1 (by simp [hnil])
        omega
      obtain ⟨last, hlast⟩ : ∃ last, (page key limit
          (belowCursor key cursor documents)).getLast? = some last :=
        ⟨_, List.getLast?_eq_some_getLast hne⟩
      have hmem := mem_of_mem_page (List.mem_of_getLast? hlast)
      have hrest := descending_below_last (hkeys.sublist
        ((belowCursor_sublist cursor documents).map key)) hlast
      rw [← belowCursor_last hmem] at hrest
      rw [batches, List.flatten_cons, hlast, Option.map_some, ih, hrest,
        page, List.take_append_drop]
      -- one page fewer is left
      intro pages
      have hlength := (descending_perm key
        (belowCursor key (some (key last)) documents)).length_eq
      rw [hrest, List.length_drop, (descending_perm _ _).length_eq]
        at hlength
      have hmore := hcount (pages + 1)
      rw [Nat.succ_mul] at hmore
      omega

end Batches

end Pages

end SamaServer
