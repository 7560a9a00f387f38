/-
The loops over the replies of `SCAN`.  The client goes on until a reply has
the cursor zero; one loop stops earlier, when its page is full.
-/
import SamaServer.OnlinePages

namespace SamaServer

/-- A reply, with the cursor to go on from.  The language holds the number of
the cursor exactly. -/
structure ScanReply (K : Type) where
  cursor : Nat
  keys : List K
  exact : cursor < 2 ^ 53

namespace ScanReply

variable {K : Type}

/-- The last reply, and no other, has the cursor zero. -/
def AreComplete (replies : List (ScanReply K)) : Prop :=
  ∃ earlier last, replies = earlier ++ [last] ∧ last.cursor = 0 ∧
    ∀ reply ∈ earlier, reply.cursor ≠ 0

/-- The batches put together. -/
def allKeys (replies : List (ScanReply K)) : List K :=
  replies.flatMap ScanReply.keys

end ScanReply

namespace RedisScan

open RedisManager

variable {K : Type}

/-- The loop of `scanWithPagination`, from the local variables on.  It has no
result while the next reply is awaited. -/
def scanFrom (offset limit : Nat) (scanned : Nat) (results : List K) :
    List (ScanReply K) → Option (List K)
  | [] => none
  | response :: replies =>
      match response.keys.foldl (scanItem offset limit)
          (.scanning scanned results) with
      | .returned results => some results
      | .scanning scanned results =>
          if response.cursor ≠ 0 then
            scanFrom offset limit scanned results replies
          else some results

def scanWithPagination (replies : List (ScanReply K)) (offset limit : Nat) :
    Option (List K) :=
  scanFrom offset limit 0 [] replies

/-- The loop of `countWithMatch`. -/
def countFrom (matchCount : Nat) : List (ScanReply K) → Option Nat
  | [] => none
  | response :: replies =>
      if response.cursor ≠ 0 then
        countFrom (matchCount + response.keys.length) replies
      else some (matchCount + response.keys.length)

def countWithMatch (replies : List (ScanReply K)) : Option Nat :=
  countFrom 0 replies

variable {offset limit : Nat}

/-- Cutting the keys into batches makes no difference to the loop. -/
theorem scanFrom_append {earlier : List (ScanReply K)} {last : ScanReply K}
    (hlast : last.cursor = 0)
    (hearlier : ∀ reply ∈ earlier, reply.cursor ≠ 0) (scanned : Nat)
    (results : List K) :
    scanFrom offset limit scanned results (earlier ++ [last]) =
      some ((ScanReply.allKeys (earlier ++ [last])).foldl
        (scanItem offset limit) (.scanning scanned results)).results := by
  induction earlier generalizing scanned results with
  | nil =>
      rw [List.nil_append, scanFrom, ScanReply.allKeys,
        List.flatMap_singleton]
      cases hkeys : last.keys.foldl (scanItem offset limit)
          (.scanning scanned results) with
      | returned page => rfl
      | scanning scanned' results' =>
          dsimp only
          rw [if_neg (not_not_intro hlast)]
          rfl
  | cons reply earlier ih =>
      obtain ⟨hcursor, hrest⟩ := List.forall_mem_cons.1 hearlier
      have hall : ScanReply.allKeys (reply :: (earlier ++ [last])) =
          reply.keys ++ ScanReply.allKeys (earlier ++ [last]) :=
        List.flatMap_cons
      rw [List.cons_append, scanFrom, hall, List.foldl_append]
      cases hkeys : reply.keys.foldl (scanItem offset limit)
          (.scanning scanned results) with
      | returned page =>
          -- the page is full, and the other batches are not asked for
          rw [foldl_scanItem_returned]
          rfl
      | scanning scanned' results' =>
          dsimp only
          rw [if_pos hcursor]
          exact ih hrest scanned' results'

theorem scanWithPagination_of_areComplete {replies : List (ScanReply K)}
    (hcomplete : ScanReply.AreComplete replies) (hlimit : 0 < limit) :
    scanWithPagination replies offset limit =
      some (((ScanReply.allKeys replies).drop offset).take limit) := by
  obtain ⟨earlier, last, rfl, hlast, hearlier⟩ := hcomplete
  rw [scanWithPagination, scanFrom_append hlast hearlier,
    results_foldl_scanItem _ [] 0 hlimit]
  rfl

theorem countFrom_append {earlier : List (ScanReply K)} {last : ScanReply K}
    (hlast : last.cursor = 0)
    (hearlier : ∀ reply ∈ earlier, reply.cursor ≠ 0) (matchCount : Nat) :
    countFrom matchCount (earlier ++ [last]) =
      some (matchCount +
        (ScanReply.allKeys (earlier ++ [last])).length) := by
  induction earlier generalizing matchCount with
  | nil =>
      rw [List.nil_append, countFrom, if_neg (not_not_intro hlast),
        ScanReply.allKeys, List.flatMap_singleton]
  | cons reply earlier ih =>
      obtain ⟨hcursor, hrest⟩ := List.forall_mem_cons.1 hearlier
      have hall : ScanReply.allKeys (reply :: (earlier ++ [last])) =
          reply.keys ++ ScanReply.allKeys (earlier ++ [last]) :=
        List.flatMap_cons
      rw [List.cons_append, countFrom, if_pos hcursor, ih hrest, hall,
        List.length_append, Nat.add_assoc]

theorem countWithMatch_of_areComplete {replies : List (ScanReply K)}
    (hcomplete : ScanReply.AreComplete replies) :
    countWithMatch replies =
      some (ScanReply.allKeys replies).length := by
  obtain ⟨earlier, last, rfl, hlast, hearlier⟩ := hcomplete
  rw [countWithMatch, countFrom_append hlast hearlier, Nat.zero_add]

/-- The results do not depend on how the keys are cut into batches. -/
theorem scanWithPagination_eq_scan {replies : List (ScanReply K)}
    (hcomplete : ScanReply.AreComplete replies) (hlimit : 0 < limit)
    (scan : Scan K) :
    scanWithPagination replies offset limit =
        some (RedisManager.scanWithPagination scan
          (ScanReply.allKeys replies) offset limit) ∧
      countWithMatch replies =
        some (RedisManager.countWithMatch scan
          (ScanReply.allKeys replies)) := by
  rw [scanWithPagination_of_areComplete hcomplete hlimit,
    countWithMatch_of_areComplete hcomplete, scanWithPagination_eq scan _
      hlimit, countWithMatch_eq]
  exact ⟨rfl, rfl⟩

/-! ### The pages -/

/-- What a scan returns is a slice of all keys, the count is their number,
and enough pages put together are the keys, each page with batches of its
own. -/
structure Slices (limit : Nat) (keys : List K) (pageReplies :
    Nat → List (ScanReply K)) : Prop where
  slice : ∀ page offset,
    scanWithPagination (pageReplies page) offset limit =
      some ((keys.drop offset).take limit)
  count : ∀ page, countWithMatch (pageReplies page) = some keys.length
  tile : ∀ pages, keys.length ≤ pages * limit →
    (List.range pages).mapM (fun page =>
        scanWithPagination (pageReplies page) (page * limit) limit) =
      some (Pages.pieces limit keys pages) ∧
    (Pages.pieces limit keys pages).flatten = keys

/-- The pages are slices of the keys, whatever the batches. -/
theorem slices_of_areComplete (limit : Nat) (hlimit : 0 < limit)
    (keys : List K) (pageReplies : Nat → List (ScanReply K))
    (hcomplete : ∀ page, ScanReply.AreComplete (pageReplies page))
    (hkeys : ∀ page, ScanReply.allKeys (pageReplies page) = keys) :
    Slices limit keys pageReplies where
  slice := by
    intro page offset
    rw [scanWithPagination_of_areComplete (hcomplete page) hlimit,
      hkeys page]
  count := by
    intro page
    rw [countWithMatch_of_areComplete (hcomplete page), hkeys page]
  tile := by
    intro pages hall
    constructor
    · have hpage : (fun page =>
            scanWithPagination (pageReplies page) (page * limit) limit) =
          fun page => some (Pages.piece limit keys page) := by
        funext page
        rw [scanWithPagination_of_areComplete (hcomplete page) hlimit,
          hkeys page]
        rfl
      rw [hpage, Pages.pieces]
      exact List.mapM_pure
    · rw [Pages.flatten_pieces, List.take_of_length_le hall]

/-- Three keys, with an empty batch in the middle. -/
theorem slices_emptyBatch :
    Slices 2 [1, 2, 3] (fun _ =>
      [⟨5, [1], by decide⟩, ⟨9, [], by decide⟩, ⟨0, [2, 3], by decide⟩]) :=
  slices_of_areComplete 2 (by decide) [1, 2, 3] (fun _ =>
      [⟨5, [1], by decide⟩, ⟨9, [], by decide⟩, ⟨0, [2, 3], by decide⟩])
    (fun _ => ⟨[⟨5, [1], by decide⟩, ⟨9, [], by decide⟩],
      ⟨0, [2, 3], by decide⟩, rfl, rfl, by decide⟩)
    (fun _ => rfl)

end RedisScan

end SamaServer
