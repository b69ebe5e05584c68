import FrameNest.Relational.Ordering

/-! A listing and its pages: the rows of a query in the order of a key, read in slices of a
length, or one page behind the other by the key of the last row seen. -/
namespace Relational
variable {ρ κ : Type} [LinearOrder κ] {key : ρ → κ} {rows : List ρ}

/- `ORDER BY key`. -/
def listing (key : ρ → κ) (rows : List ρ) : List ρ := rows.insertionSort fun a b => key a ≤ key b

theorem mem_listing {row : ρ} : row ∈ listing key rows ↔ row ∈ rows := List.mem_insertionSort _

/-- With keys of their own, the rows of a listing ascend. -/
theorem listing_ascending (h : (rows.map key).Nodup) :
    (listing key rows).Pairwise fun a b => key a < key b := by
  have hsorted : (listing key rows).Pairwise fun a b => key a ≤ key b :=
    List.pairwise_insertionSort _ _
  have hnodup : ((listing key rows).map key).Nodup :=
    ((List.perm_insertionSort _ rows).map key).nodup_iff.mpr h
  exact (hsorted.and (List.pairwise_map.mp hnodup)).imp fun h => lt_of_le_of_ne h.1 h.2

/-- Only one order of the rows ascends. -/
theorem ascending_unique {rows' : List ρ} (h : rows.Pairwise fun a b => key a < key b)
    (h' : rows'.Pairwise fun a b => key a < key b) (hperm : rows.Perm rows') : rows = rows' :=
  hperm.eq_of_pairwise (fun _ _ _ _ hab hba => absurd (lt_trans hab hba) (lt_irrefl _)) h h'

/-- To choose rows and then to order them is to order them and then to choose. -/
theorem listing_filter (h : (rows.map key).Nodup) (p : ρ → Bool) :
    listing key (rows.filter p) = (listing key rows).filter p := by
  have hchosen : ((rows.filter p).map key).Nodup := (List.filter_sublist.map key).nodup h
  apply ascending_unique (listing_ascending hchosen) ((listing_ascending h).filter p)
  exact (List.perm_insertionSort _ _).trans ((List.perm_insertionSort _ _).filter p).symm

/-! Slices. -/

/- `LIMIT limit OFFSET offset`. -/
def slice (limit offset : Nat) (rows : List ρ) : List ρ := (rows.drop offset).take limit

/-- The first pages, put together, are the beginning of the listing. -/
theorem slices_take (limit : Nat) (rows : List ρ) (n : Nat) :
    ((List.range n).flatMap fun i => slice limit (i * limit) rows) = rows.take (n * limit) := by
  induction n with
  | zero => simp
  | succ n ih =>
    rw [List.range_succ, List.flatMap_append, ih, Nat.succ_mul, List.take_add]
    simp [slice]

/-! Pages behind a cursor. -/

variable {γ ε ι : Type}

/-- What following the cursors of a page function from one on gives: the items of the pages,
up to the one that names no cursor. -/
inductive Walk (page : Option γ → Except ε (List ι × Option γ)) : Option γ → List ι → Prop
  | last {cursor : Option γ} {items : List ι} (h : page cursor = .ok (items, none)) :
      Walk page cursor items
  | more {cursor : Option γ} {items rest : List ι} {next : γ}
      (h : page cursor = .ok (items, some next)) (walk : Walk page (some next) rest) :
      Walk page cursor (items ++ rest)

/-- A walk has one outcome. -/
theorem Walk.unique {page : Option γ → Except ε (List ι × Option γ)} {cursor : Option γ}
    {items items' : List ι} (h : Walk page cursor items) (h' : Walk page cursor items') :
    items = items' := by
  induction h generalizing items' with
  | last h =>
    cases h' with
    | last h' =>
      rw [h] at h'
      simpa using h'
    | more h' _ =>
      rw [h] at h'
      simp at h'
  | more h _ ih =>
    cases h' with
    | last h' =>
      rw [h] at h'
      simp at h'
    | more h' walk' =>
      rw [h] at h'
      simp only [Except.ok.injEq, Prod.mk.injEq, Option.some.injEq] at h'
      obtain ⟨rfl, rfl⟩ := h'
      rw [ih walk']

/- One row more than the page holds is fetched; where it is there, the last row of the page
   is where the next one goes on. -/
def keysetPage (key : ρ → κ) (limit : Nat) (cursor : Option κ) (rows : List ρ) :
    List ρ × Option κ :=
  let fetched := page key (fun _ => true) (limit + 1) cursor rows
  if limit < fetched.length then (fetched.take limit, (fetched.take limit).getLast?.map key)
  else (fetched, none)

/- The rows behind the cursor. -/
def ahead (key : ρ → κ) (cursor : Option κ) (rows : List ρ) : List ρ :=
  (listing key rows).filter fun row => before cursor (key row)

theorem ahead_none : ahead key none rows = listing key rows := by simp [ahead, before]

theorem page_eq_ahead (h : (rows.map key).Nodup) (limit : Nat) (cursor : Option κ) :
    page key (fun _ => true) limit cursor rows = (ahead key cursor rows).take limit := by
  have hfilter := listing_filter h fun row => before cursor (key row)
  unfold page ahead
  rw [← hfilter]
  simp [listing]

/-- Behind the last row of a page stand the rows that the page left out. -/
theorem ahead_last (h : (rows.map key).Nodup) {cursor : Option κ} {front back : List ρ} {last : ρ}
    (hrows : ahead key cursor rows = front ++ back) (hlast : front.getLast? = some last) :
    ahead key (some (key last)) rows = back := by
  have hascending : (ahead key cursor rows).Pairwise fun a b => key a < key b :=
    (listing_ascending h).filter _
  rw [hrows] at hascending
  obtain ⟨hfront, -, hacross⟩ := List.pairwise_append.mp hascending
  have hmem : last ∈ front := List.mem_of_getLast? hlast
  have hpassed : before cursor (key last) = true := by
    have hin : last ∈ ahead key cursor rows := hrows ▸ List.mem_append_left _ hmem
    exact (List.mem_filter.mp hin).2
  have hrefined : ahead key (some (key last)) rows =
      (ahead key cursor rows).filter fun row => before (some (key last)) (key row) := by
    simp only [ahead, List.filter_filter]
    refine List.filter_congr fun row _ => ?_
    cases hrow : before (some (key last)) (key row) with
    | false => rfl
    | true => simp [before_trans hpassed (before_some.mp hrow)]
  rw [hrefined, hrows, List.filter_append]
  have hnone : front.filter (fun row => before (some (key last)) (key row)) = [] := by
    rw [List.filter_eq_nil_iff]
    intro row hrow
    rw [before_some, not_lt]
    obtain ⟨init, rfl⟩ := List.getLast?_eq_some_iff.mp hlast
    rw [List.mem_append, List.mem_singleton] at hrow
    obtain hrow | rfl := hrow
    · exact le_of_lt ((List.pairwise_append.mp hfront).2.2 row hrow last (by simp))
    · exact le_rfl
  have hall : back.filter (fun row => before (some (key last)) (key row)) = back := by
    rw [List.filter_eq_self]
    intro row hrow
    exact before_some.mpr (hacross last hmem row hrow)
  rw [hnone, hall, List.nil_append]

/-- A page that leaves rows out names its last key. -/
theorem keysetPage_more (h : (rows.map key).Nodup) {limit : Nat} (hlimit : 0 < limit)
    {cursor : Option κ} (hmore : limit < (ahead key cursor rows).length) :
    ∃ last, ((ahead key cursor rows).take limit).getLast? = some last ∧
      keysetPage key limit cursor rows = ((ahead key cursor rows).take limit, some (key last)) := by
  have hne : (ahead key cursor rows).take limit ≠ [] := by
    intro hnil
    have hzero := congrArg List.length hnil
    rw [List.length_take, List.length_nil] at hzero
    omega
  have hlast := List.getLast?_eq_some_getLast hne
  have htake : ((ahead key cursor rows).take (limit + 1)).take limit =
      (ahead key cursor rows).take limit := by
    rw [List.take_take]
    congr 1
    omega
  have hlong : limit < ((ahead key cursor rows).take (limit + 1)).length := by
    rw [List.length_take]
    omega
  refine ⟨_, hlast, ?_⟩
  simp only [keysetPage, page_eq_ahead h, if_pos hlong, htake, hlast, Option.map_some]

/-- A page that all rows ahead fit into is the last one. -/
theorem keysetPage_last (h : (rows.map key).Nodup) {limit : Nat} {cursor : Option κ}
    (hshort : (ahead key cursor rows).length ≤ limit) :
    keysetPage key limit cursor rows = (ahead key cursor rows, none) := by
  have hwhole : (ahead key cursor rows).take (limit + 1) = ahead key cursor rows :=
    List.take_of_length_le (by omega)
  have hfits : ¬limit < (ahead key cursor rows).length := by omega
  simp only [keysetPage, page_eq_ahead h, hwhole, if_neg hfits]

/-- Following the cursors lists every row once, in the order of the keys, however the rows are
rendered as items and the keys as cursors. -/
theorem keyset_walk (h : (rows.map key).Nodup) {limit : Nat} (hlimit : 0 < limit) (render : ρ → ι)
    (code : κ → γ) {answer : Option γ → Except ε (List ι × Option γ)}
    (hanswer : ∀ cursor : Option κ, (∀ k ∈ cursor, k ∈ rows.map key) →
      answer (cursor.map code) = .ok ((keysetPage key limit cursor rows).1.map render,
        (keysetPage key limit cursor rows).2.map code))
    (cursor : Option κ) (hcursor : ∀ k ∈ cursor, k ∈ rows.map key) :
    Walk answer (cursor.map code) ((ahead key cursor rows).map render) := by
  -- by the number of rows ahead
  induction hn : (ahead key cursor rows).length using Nat.strong_induction_on generalizing cursor with
  | h n ih =>
    have hpage := hanswer cursor hcursor
    obtain hmore | hshort := Nat.lt_or_ge limit (ahead key cursor rows).length
    · obtain ⟨last, hlast, hkeyset⟩ := keysetPage_more h hlimit hmore
      have hrest := ahead_last h (List.take_append_drop limit (ahead key cursor rows)).symm hlast
      have hin : key last ∈ rows.map key := by
        have hmem := List.mem_of_mem_take (List.mem_of_getLast? hlast)
        exact List.mem_map_of_mem (mem_listing.mp (List.mem_filter.mp hmem).1)
      have hwalk := ih (n - limit) (by omega) (some (key last)) (by simpa using hin)
        (by rw [hrest, List.length_drop, hn])
      rw [hkeyset] at hpage
      have hall := Walk.more hpage hwalk
      rwa [hrest, ← List.map_append, List.take_append_drop] at hall
    · rw [keysetPage_last h hshort] at hpage
      exact Walk.last hpage

/-! The first row of each partition. -/

variable {α : Type} [DecidableEq α] {partition : ρ → α}

/- The rows with `row_number() OVER (PARTITION BY partition ORDER BY key) = 1`: none of their
partition comes before them. -/
def topRanked (partition : ρ → α) (key : ρ → κ) (rows : List ρ) : List ρ :=
  rows.filter fun r => (rows.countP fun other => partition other = partition r && key other < key r) = 0

theorem mem_topRanked {r : ρ} : r ∈ topRanked partition key rows ↔
    r ∈ rows ∧ ∀ other ∈ rows, partition other = partition r → key r ≤ key other := by
  simp [topRanked, List.countP_eq_zero]

/-- Every partition has its first row. -/
theorem exists_topRanked {r : ρ} (h : r ∈ rows) :
    ∃ first ∈ topRanked partition key rows, partition first = partition r := by
  have hne : (listing key (rows.filter fun other => partition other = partition r)) ≠ [] := by
    apply List.ne_nil_of_mem (a := r)
    rw [mem_listing, List.mem_filter]
    exact ⟨h, by simp⟩
  obtain ⟨first, rest, hlisting⟩ := List.exists_cons_of_ne_nil hne
  have hsorted : (first :: rest).Pairwise fun a b => key a ≤ key b := by
    rw [← hlisting]
    exact List.pairwise_insertionSort _ _
  have hfirst : first ∈ rows ∧ partition first = partition r := by
    have hmem : first ∈ listing key (rows.filter fun other => partition other = partition r) := by
      rw [hlisting]
      exact List.mem_cons_self
    simpa using mem_listing.mp hmem
  refine ⟨first, mem_topRanked.mpr ⟨hfirst.1, fun other hother hsame => ?_⟩, hfirst.2⟩
  have hmem : other ∈ first :: rest := by
    rw [← hlisting, mem_listing, List.mem_filter]
    exact ⟨hother, by simp [hsame, hfirst.2]⟩
  obtain rfl | hrest := List.mem_cons.mp hmem
  · exact le_rfl
  · exact List.rel_of_pairwise_cons hsorted hrest

/-- It has only one. -/
theorem topRanked_unique (hkeys : (rows.map key).Nodup) {a b : ρ}
    (ha : a ∈ topRanked partition key rows) (hb : b ∈ topRanked partition key rows)
    (h : partition a = partition b) : a = b := by
  obtain ⟨harows, hafirst⟩ := mem_topRanked.mp ha
  obtain ⟨hbrows, hbfirst⟩ := mem_topRanked.mp hb
  have hkey : key a = key b := le_antisymm (hafirst b hbrows h.symm) (hbfirst a harows h)
  exact List.inj_on_of_nodup_map hkeys harows hbrows hkey

theorem topRanked_nodup (hkeys : (rows.map key).Nodup) :
    ((topRanked partition key rows).map partition).Nodup := by
  have hrows : rows.Nodup := hkeys.of_map _
  exact (hrows.filter _).map_on fun a ha b hb h => topRanked_unique hkeys ha hb h

end Relational
