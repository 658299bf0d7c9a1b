import PagedTables.Proofs.Result
import PagedTables.Proofs.Stream.Search
import PagedTables.Proofs.Value.Keys

/-!
# Indexing a stream

All pages of a script are taken in one after the other, until one of them cannot be. When items are
stored under their keys, this happens at the first item whose key another item before it has, on
whatever page that one was.

The main result says which index a script gives, when there is none, and how many pages have been
fetched until then.
-/
namespace PagedTables

variable {κ ι β : Type}

/-! ## Taking in pages -/

/-- The targets of the fetches of some pages, the first of which has the given one. -/
def targetsFrom (target : Option Link) : List (Page κ ι) → List (Option Link)
  | [] => []
  | p :: rest => target :: targetsFrom p.next rest

theorem targetsFrom_concat (target : Option Link) (ps : List (Page κ ι)) (p : Page κ ι) :
    targetsFrom target (ps ++ [p]) =
      targetsFrom target ps ++ [ps.getLast?.elim target Page.next] := by
  induction ps generalizing target with
  | nil => rfl
  | cons first rest ih =>
      rw [List.cons_append, targetsFrom, ih, targetsFrom, List.cons_append]
      cases rest with
      | nil => rfl
      | cons second rest =>
          rw [List.getLast?_cons_cons, List.getLast?_eq_some_getLast (List.cons_ne_nil second rest)]
          rfl

/-- The script gives the page that a cursor stands in front of. -/
theorem PageCursor.Follows.advance_script {seen : List (Page κ ι)} {c : PageCursor}
    (hc : c.Follows seen) (hopen : openAfter true seen = true) (p : Page κ ι)
    (later : List (Except Fault (Page κ ι))) (targets : List (Option Link)) (stream : Stream κ ι) :
    ∃ after : PageCursor, after.Follows (seen ++ [p]) ∧ after.target = p.next ∧
      c.advance Script.fetch false ⟨stream, ⟨.ok p :: later, targets⟩⟩ =
        (.next p, after, ⟨stream.observe p, ⟨later, targets ++ [c.target]⟩⟩) := by
  have hend : c.isAtEnd = false := by rw [hc.atEnd, hopen]; rfl
  have hstep : Step Script.fetch false c ⟨stream, ⟨.ok p :: later, targets⟩⟩ (.next p)
      ⟨.hasPage, p.next, c.fetched + 1⟩ ⟨stream.observe p, ⟨later, targets ++ [c.target]⟩⟩
      [⟨c.target, .ok p⟩] := .page hend rfl rfl
  refine ⟨_, hstep.follows hc, rfl, ?_⟩
  simp [advance, hend, Script.fetch]

namespace PageSource

variable {take : β → Page κ ι → Except Fault β} {acc mid : β}

/-- Pages that can all be taken in leave the cursor where they lead. -/
theorem foldWithin_of_foldlM {seen ps : List (Page κ ι)} {c : PageCursor} (hc : c.Follows seen)
    (hlinked : Linked true (seen ++ ps)) (hfold : ps.foldlM take acc = .ok mid)
    (later : List (Except Fault (Page κ ι))) (targets : List (Option Link))
    (stream : Stream κ ι) (fuel : Nat) :
    ∃ after stream', after.Follows (seen ++ ps) ∧
      foldWithin Script.fetch false take (ps.length + fuel) acc c
          ⟨stream, ⟨ps.map .ok ++ later, targets⟩⟩ =
        foldWithin Script.fetch false take fuel mid after
          ⟨stream', ⟨later, targets ++ targetsFrom c.target ps⟩⟩ := by
  induction ps generalizing seen c acc targets stream with
  | nil =>
      cases hfold
      exact ⟨c, stream, by rwa [List.append_nil], by simp [targetsFrom]⟩
  | cons p ps ih =>
      rw [List.foldlM_cons] at hfold
      obtain ⟨mid', hfirst, hrest⟩ := bind_eq_ok.mp hfold
      have hopen : openAfter true seen = true := ((linked_append _ _ _).mp hlinked).2.1
      obtain ⟨after, hafter, htarget, hadvance⟩ :=
        hc.advance_script hopen p (ps.map .ok ++ later) targets stream
      rw [List.append_cons] at hlinked ⊢
      obtain ⟨last, stream', hlast, hfolded⟩ :=
        ih hafter hlinked hrest (targets ++ [c.target]) (stream.observe p)
      refine ⟨last, stream', hlast, ?_⟩
      rw [List.length_cons, Nat.add_right_comm, foldWithin, List.map_cons, List.cons_append,
        hadvance]
      rw [htarget, List.append_assoc] at hfolded
      dsimp only
      rw [hfirst, targetsFrom]
      exact hfolded

section Scripts

variable {ps : List (Page κ ι)} (hlinked : Linked true ps)
  (rest : List (Except Fault (Page κ ι))) (targets : List (Option Link)) (stream : Stream κ ι)

include hlinked

/-- If all pages of a script can be taken in, all are fetched, and nothing else is. -/
theorem foldPages_of_foldlM (hclosed : openAfter true ps = false)
    (hfold : ps.foldlM take acc = .ok mid) :
    ∃ stream', Script.source.foldPages false take acc
        ⟨stream, ⟨ps.map .ok ++ rest, targets⟩⟩ =
      (.ok mid, ⟨stream', ⟨rest, targets ++ targetsFrom none ps⟩⟩) := by
  obtain ⟨after, stream', hafter, hfolded⟩ := foldWithin_of_foldlM PageCursor.follows_start hlinked
    hfold rest targets stream (rest.length + 1)
  have hend : after.isAtEnd = true := by
    rw [hafter.atEnd, List.nil_append, hclosed]
    rfl
  refine ⟨stream', ?_⟩
  have hpatience : Script.source.patience ⟨stream, ⟨ps.map .ok ++ rest, targets⟩⟩ =
      ps.length + (rest.length + 1) := by
    simp [patience, Script.source, Nat.add_assoc]
  rw [foldPages, hpatience]
  refine hfolded.trans ?_
  rw [foldWithin, PageCursor.advance, if_pos hend]
  rfl

/-- If a page cannot be taken in, no page behind it is fetched. -/
theorem foldPages_of_error {read unread : List (Page κ ι)} {p : Page κ ι}
    (hps : ps = read ++ p :: unread) (hfold : read.foldlM take acc = .ok mid) {fault : Fault}
    (hfault : take mid p = .error fault) :
    ∃ stream', Script.source.foldPages false take acc
        ⟨stream, ⟨ps.map .ok ++ rest, targets⟩⟩ =
      (.error fault, ⟨stream', ⟨unread.map .ok ++ rest,
        targets ++ targetsFrom none (read ++ [p])⟩⟩) := by
  subst hps
  have hread : Linked true ([] ++ read) := ((linked_append _ _ _).mp hlinked).1
  have hopen : openAfter true ([] ++ read) = true := ((linked_append _ _ _).mp hlinked).2.1
  obtain ⟨after, stream', hafter, hfolded⟩ := foldWithin_of_foldlM PageCursor.follows_start hread
    hfold (.ok p :: (unread.map .ok ++ rest)) targets stream
    (unread.length + rest.length + 2)
  obtain ⟨last, -, -, hadvance⟩ := hafter.advance_script hopen p (unread.map .ok ++ rest)
    (targets ++ targetsFrom none read) stream'
  refine ⟨stream'.observe p, ?_⟩
  have hpatience : Script.source.patience
      ⟨stream, ⟨(read ++ p :: unread).map .ok ++ rest, targets⟩⟩ =
        read.length + (unread.length + rest.length + 2) := by
    simp only [patience, Script.source, List.length_append, List.length_map, List.length_cons]
    omega
  have htarget : after.target = read.getLast?.elim none Page.next := by
    rw [hafter.target, List.nil_append]
    cases read.getLast? <;> rfl
  rw [foldPages, hpatience, List.map_append, List.map_cons, List.append_assoc, List.cons_append]
  refine hfolded.trans ?_
  rw [foldWithin, PageCursor.start, hadvance]
  dsimp only
  rw [hfault, targetsFrom_concat, htarget, List.append_assoc]

end Scripts

/-- Items that are taken in page by page are taken in one after the other. -/
theorem foldlM_itemsOf (take : β → ι → Except Fault β) (ps : List (Page κ ι)) (acc : β) :
    ps.foldlM (fun acc p => p.items.foldlM take acc) acc = (itemsOf ps).foldlM take acc := by
  induction ps generalizing acc with
  | nil => rfl
  | cons p ps ih =>
      rw [List.foldlM_cons, itemsOf_cons, List.foldlM_append]
      exact bind_congr fun mid => ih mid

theorem foldlM_append_items (ps : List (Page κ ι)) (items : List ι) :
    ps.foldlM (fun items p => (.ok (items ++ p.items) : Except Fault (List ι))) items =
      .ok (items ++ itemsOf ps) := by
  induction ps generalizing items with
  | nil => rw [itemsOf_nil, List.append_nil]; rfl
  | cons p ps ih =>
      rw [List.foldlM_cons, itemsOf_cons, ← List.append_assoc]
      exact ih (items ++ p.items)

/-! ## Storing items -/

section Store

variable {keyOf : ι → Except Fault Value} {key : ι → Value} {seen items : List ι} {item : ι}

/-- The items under their keys. -/
def entriesOf (key : ι → Value) (items : List ι) : Index ι :=
  items.map fun item => (key item, item)

/-- The keys of items, which can be stored under them. -/
def Keys (keyOf : ι → Except Fault Value) (key : ι → Value) (items : List ι) : Prop :=
  ∀ item ∈ items, keyOf item = .ok (key item) ∧ (key item).isKey = true

/-- The items have different keys. -/
def DistinctKeys (key : ι → Value) (items : List ι) : Prop :=
  items.Pairwise fun earlier later => ¬(key earlier).Collides (key later)

theorem any_entriesOf (hseen : Keys keyOf key seen) (v : Value) :
    ((entriesOf key seen).any fun entry => entry.1.sameKey v) = true ↔
      ∃ earlier ∈ seen, (key earlier).Collides v := by
  simp only [entriesOf, List.any_map, List.any_eq_true, Function.comp_apply]
  exact exists_congr fun earlier => and_congr_right fun hmem =>
    Value.sameKey_iff_collides (hseen earlier hmem).2

theorem store_eq (hkeys : Keys keyOf key (seen ++ [item])) :
    store keyOf (entriesOf key seen) item =
      if (entriesOf key seen).any fun entry => entry.1.sameKey (key item) then
        .error (.duplicateKey (key item).display)
      else .ok (entriesOf key (seen ++ [item])) := by
  obtain ⟨hkey, hisKey⟩ := hkeys item (List.mem_append_right seen (List.mem_singleton_self item))
  simp [store, hkey, hisKey, bind, Except.bind, entriesOf]

/-- An item with a new key is stored under it. -/
theorem store_of_new (hkeys : Keys keyOf key (seen ++ [item]))
    (hnew : ∀ earlier ∈ seen, ¬(key earlier).Collides (key item)) :
    store keyOf (entriesOf key seen) item = .ok (entriesOf key (seen ++ [item])) := by
  have hseen : Keys keyOf key seen := fun i hi => hkeys i (List.mem_append_left [item] hi)
  rw [store_eq hkeys, if_neg]
  rw [any_entriesOf hseen]
  rintro ⟨earlier, hearlier, hcollides⟩
  exact hnew earlier hearlier hcollides

/-- An item whose key another one has is refused. -/
theorem store_of_collision (hkeys : Keys keyOf key (seen ++ [item]))
    (hcollision : ∃ earlier ∈ seen, (key earlier).Collides (key item)) :
    store keyOf (entriesOf key seen) item = .error (.duplicateKey (key item).display) := by
  have hseen : Keys keyOf key seen := fun i hi => hkeys i (List.mem_append_left [item] hi)
  rw [store_eq hkeys, if_pos]
  rwa [any_entriesOf hseen]

/-- Items with different keys are all stored. -/
theorem foldlM_store (hkeys : Keys keyOf key (seen ++ items))
    (hdistinct : DistinctKeys key (seen ++ items)) :
    items.foldlM (store keyOf) (entriesOf key seen) = .ok (entriesOf key (seen ++ items)) := by
  induction items generalizing seen with
  | nil => rw [List.append_nil]; rfl
  | cons item rest ih =>
      have hnew : ∀ earlier ∈ seen, ¬(key earlier).Collides (key item) := fun earlier hearlier =>
        (List.pairwise_append.mp hdistinct).2.2 earlier hearlier item List.mem_cons_self
      rw [List.append_cons] at hkeys hdistinct ⊢
      rw [List.foldlM_cons, store_of_new (fun i hi => hkeys i (List.mem_append_left rest hi)) hnew]
      exact ih hkeys hdistinct

/-- Items with different keys make an index. -/
theorem foldlM_store_nil (hkeys : Keys keyOf key items) (hdistinct : DistinctKeys key items) :
    items.foldlM (store keyOf) [] = .ok (entriesOf key items) :=
  foldlM_store (show Keys keyOf key ([] ++ items) from hkeys) hdistinct

/-- Items have different keys, or there is a first one whose key an earlier one has. -/
theorem distinctKeys_or_collision (items : List ι) (hseen : DistinctKeys key seen) :
    DistinctKeys key (seen ++ items) ∨ ∃ before item after, items = before ++ item :: after ∧
      DistinctKeys key (seen ++ before) ∧
      ∃ earlier ∈ seen ++ before, (key earlier).Collides (key item) := by
  induction items generalizing seen with
  | nil => exact .inl (by rwa [List.append_nil])
  | cons item rest ih =>
      by_cases hcollision : ∃ earlier ∈ seen, (key earlier).Collides (key item)
      · exact .inr ⟨[], item, rest, rfl, by rwa [List.append_nil], by rwa [List.append_nil]⟩
      · have hlonger : DistinctKeys key (seen ++ [item]) := by
          refine List.pairwise_append.mpr ⟨hseen, List.pairwise_singleton _ _, ?_⟩
          intro earlier hearlier later hlater
          rw [List.mem_singleton.mp hlater]
          exact fun hcollides => hcollision ⟨earlier, hearlier, hcollides⟩
        rcases ih hlonger with hdistinct | ⟨before, item', after, rfl, hbefore, hcollides⟩
        · exact .inl (by rwa [List.append_cons])
        · refine .inr ⟨item :: before, item', after, rfl, ?_, ?_⟩
          · rwa [List.append_cons]
          · rwa [List.append_cons]

end Store

/-- An item of some pages is on one of them, behind the items before it. -/
theorem exists_page_of_itemsOf {ps : List (Page κ ι)} {before after : List ι} {item : ι}
    (h : itemsOf ps = before ++ item :: after) :
    ∃ read p unread first last, ps = read ++ p :: unread ∧ p.items = first ++ item :: last ∧
      before = itemsOf read ++ first := by
  induction ps generalizing before with
  | nil => simp at h
  | cons p ps ih =>
      rw [itemsOf_cons] at h
      -- The item is on this page, or all items of the page are in front of it.
      rcases List.append_eq_append_iff.mp h with ⟨later, rfl, hrest⟩ | ⟨held, hitems, hrest⟩
      · obtain ⟨read, p', unread, first, last, rfl, hitems, rfl⟩ := ih hrest
        exact ⟨p :: read, p', unread, first, last, rfl, hitems, by simp⟩
      · cases held with
        | nil =>
            have hlater : itemsOf ps = [] ++ item :: after := hrest.symm
            obtain ⟨read, p', unread, first, last, rfl, hitems', hnone⟩ := ih hlater
            refine ⟨p :: read, p', unread, first, last, rfl, hitems', ?_⟩
            rw [itemsOf_cons, List.append_assoc, ← hnone, hitems, List.append_nil, List.append_nil]
        | cons first held =>
            rw [List.cons_append, List.cons.injEq] at hrest
            obtain ⟨rfl, -⟩ := hrest
            exact ⟨[], p, ps, before, held, rfl, hitems, rfl⟩

/-- Items whose keys are not all different have a first one with the key of an earlier one. -/
theorem exists_duplicate {key : ι → Value} {ps : List (Page κ ι)}
    (h : ¬DistinctKeys key (itemsOf ps)) :
    ∃ read p unread first item last, ps = read ++ p :: unread ∧ p.items = first ++ item :: last ∧
      DistinctKeys key (itemsOf read ++ first) ∧
      ∃ earlier ∈ itemsOf read ++ first, (key earlier).Collides (key item) := by
  have hnone : DistinctKeys key [] := .nil
  obtain ⟨before, item, after, hitems, hbefore, hcollision⟩ :=
    (distinctKeys_or_collision (itemsOf ps) hnone).resolve_left h
  rw [List.nil_append] at hbefore hcollision
  obtain ⟨read, p, unread, first, last, hps, hfirst, rfl⟩ := exists_page_of_itemsOf hitems
  exact ⟨read, p, unread, first, item, last, hps, hfirst, hbefore, hcollision⟩

section Scripts

variable {keyOf : ι → Except Fault Value} {key : ι → Value} {ps : List (Page κ ι)}
  (hlinked : Linked true ps) (hkeys : Keys keyOf key (itemsOf ps))
  (rest : List (Except Fault (Page κ ι))) (targets : List (Option Link)) (stream : Stream κ ι)

include hlinked hkeys

/-- Items with different keys are all in the index. -/
theorem index_of_distinctKeys (hclosed : openAfter true ps = false)
    (hdistinct : DistinctKeys key (itemsOf ps)) :
    ∃ stream', Script.source.index false keyOf ⟨stream, ⟨ps.map .ok ++ rest, targets⟩⟩ =
      (.ok (entriesOf key (itemsOf ps)), ⟨stream', ⟨rest, targets ++ targetsFrom none ps⟩⟩) := by
  apply foldPages_of_foldlM hlinked rest targets stream hclosed
  rw [foldlM_itemsOf]
  exact foldlM_store_nil hkeys hdistinct

/-- No page behind the one with the first duplicate is fetched. -/
theorem index_of_duplicate {read unread : List (Page κ ι)} {p : Page κ ι} {first last : List ι}
    {item : ι} (hps : ps = read ++ p :: unread) (hitems : p.items = first ++ item :: last)
    (hdistinct : DistinctKeys key (itemsOf read ++ first))
    (hcollision : ∃ earlier ∈ itemsOf read ++ first, (key earlier).Collides (key item)) :
    ∃ stream', Script.source.index false keyOf ⟨stream, ⟨ps.map .ok ++ rest, targets⟩⟩ =
      (.error (.duplicateKey (key item).display), ⟨stream', ⟨unread.map .ok ++ rest,
        targets ++ targetsFrom none (read ++ [p])⟩⟩) := by
  have hall : itemsOf ps = itemsOf read ++ first ++ [item] ++ (last ++ itemsOf unread) := by
    simp [hps, hitems]
  rw [hall] at hkeys
  have hkeysItem : Keys keyOf key (itemsOf read ++ first ++ [item]) := fun i hi =>
    hkeys i (List.mem_append_left _ hi)
  have hkeysBefore : Keys keyOf key (itemsOf read ++ first) := fun i hi =>
    hkeysItem i (List.mem_append_left [item] hi)
  have hread : read.foldlM (fun index p => p.items.foldlM (store keyOf) index) [] =
      .ok (entriesOf key (itemsOf read)) := by
    rw [foldlM_itemsOf]
    exact foldlM_store_nil (fun i hi => hkeysBefore i (List.mem_append_left first hi))
      (hdistinct.sublist (List.sublist_append_left _ _))
  have hpage : p.items.foldlM (store keyOf) (entriesOf key (itemsOf read)) =
      .error (.duplicateKey (key item).display) := by
    rw [hitems, List.foldlM_append, foldlM_store hkeysBefore hdistinct]
    change (item :: last).foldlM (store keyOf) (entriesOf key (itemsOf read ++ first)) = _
    rw [List.foldlM_cons, store_of_collision hkeysItem hcollision]
    rfl
  exact foldPages_of_error hlinked rest targets stream hps hread hpage

end Scripts

/--
A script of linked pages gives an index exactly if the keys of all its items are different, and then
each item is in the index, in the order of the pages and under its own key. Otherwise the index is
refused for the first item whose key an earlier one has, and all that has been fetched are the pages
up to the one that this item is on.
-/
theorem index_of_script {keyOf : ι → Except Fault Value} {key : ι → Value} {ps : List (Page κ ι)}
    (hlinked : Linked true ps) (hclosed : openAfter true ps = false)
    (hkeys : Keys keyOf key (itemsOf ps)) (rest : List (Except Fault (Page κ ι)))
    (targets : List (Option Link)) (stream : Stream κ ι) {s : Scene (Script κ ι) κ ι}
    (hs : s = ⟨stream, ⟨ps.map .ok ++ rest, targets⟩⟩) :
    (∃ stream', Script.source.toList false s =
      (.ok (itemsOf ps), ⟨stream', ⟨rest, targets ++ targetsFrom none ps⟩⟩)) ∧
    ((∃ entries, (Script.source.index false keyOf s).1 = .ok entries) ↔
      DistinctKeys key (itemsOf ps)) ∧
    (∀ entries, (Script.source.index false keyOf s).1 = .ok entries →
      entries = (itemsOf ps).map fun item => (key item, item)) ∧
    (¬DistinctKeys key (itemsOf ps) → ∃ read p unread first item last stream',
      ps = read ++ p :: unread ∧ p.items = first ++ item :: last ∧
      DistinctKeys key (itemsOf read ++ first) ∧
      (∃ earlier ∈ itemsOf read ++ first, (key earlier).Collides (key item)) ∧
      Script.source.index false keyOf s = (.error (.duplicateKey (key item).display),
        ⟨stream', ⟨unread.map .ok ++ rest, targets ++ targetsFrom none (read ++ [p])⟩⟩)) := by
  subst hs
  have hindex := index_of_distinctKeys hlinked hkeys rest targets stream hclosed
  have hrefused (hcollision : ¬DistinctKeys key (itemsOf ps)) :
      ∃ read p unread first item last stream',
        ps = read ++ p :: unread ∧ p.items = first ++ item :: last ∧
        DistinctKeys key (itemsOf read ++ first) ∧
        (∃ earlier ∈ itemsOf read ++ first, (key earlier).Collides (key item)) ∧
        Script.source.index false keyOf ⟨stream, ⟨ps.map .ok ++ rest, targets⟩⟩ =
          (.error (.duplicateKey (key item).display),
            ⟨stream', ⟨unread.map .ok ++ rest, targets ++ targetsFrom none (read ++ [p])⟩⟩) := by
    obtain ⟨read, p, unread, first, item, last, hps, hitems, hbefore, hcollides⟩ :=
      exists_duplicate hcollision
    obtain ⟨stream', hfault⟩ :=
      index_of_duplicate hlinked hkeys rest targets stream hps hitems hbefore hcollides
    exact ⟨read, p, unread, first, item, last, stream', hps, hitems, hbefore, hcollides, hfault⟩
  have hdistinct (entries : Index ι)
      (hentries : (Script.source.index false keyOf
        ⟨stream, ⟨ps.map .ok ++ rest, targets⟩⟩).1 = .ok entries) :
      DistinctKeys key (itemsOf ps) := by
    by_contra hcollision
    obtain ⟨_, _, _, _, _, _, _, _, _, _, _, hfault⟩ := hrefused hcollision
    rw [hfault] at hentries
    cases hentries
  refine ⟨?_, ⟨?_, ?_⟩, ?_, hrefused⟩
  · exact foldPages_of_foldlM hlinked rest targets stream hclosed (foldlM_append_items ps [])
  · rintro ⟨entries, hentries⟩
    exact hdistinct entries hentries
  · intro hdifferent
    obtain ⟨stream', hok⟩ := hindex hdifferent
    exact ⟨_, by rw [hok]⟩
  · intro entries hentries
    obtain ⟨stream', hok⟩ := hindex (hdistinct entries hentries)
    rw [hok] at hentries
    exact (Except.ok.inj hentries).symm

/-- An item with a key. -/
def keyed (v : Value) : Item :=
  .plain (.dict [(.text "id", v)])

/-- How the keys are found. -/
def byId : Item → Except Fault Value :=
  (ItemKey.named "id").of

/-- The key of an item that has one. -/
def idOf (item : Item) : Value :=
  (byId item).toOption.getD .null

/-- Pages with an empty one in between. A truth value comes after the number that it equals. -/
def mixedPages : List (Page Int Item) :=
  [⟨[keyed (.int 1), keyed (.int 2)], none, some ⟨"a", by decide⟩⟩,
    ⟨[], none, some ⟨"b", by decide⟩⟩,
    ⟨[keyed (.int 3), keyed (.bool true)], none, some ⟨"c", by decide⟩⟩,
    ⟨[keyed (.int 4)], none, none⟩]

theorem index_of_script_mixedPages :
    ∃ fault read p unread stream', mixedPages = read ++ p :: unread ∧
      Script.source.index false byId ⟨.fresh, ⟨mixedPages.map .ok, []⟩⟩ =
        (.error fault, ⟨stream', ⟨unread.map .ok, targetsFrom none (read ++ [p])⟩⟩) ∧
      fault.message? = some "Duplicate key True in query results" ∧
      targetsFrom none (read ++ [p]) =
        [none, some ⟨"a", by decide⟩, some ⟨"b", by decide⟩] := by
  have hkeys : Keys byId idOf (itemsOf mixedPages) := by
    simp only [mixedPages, itemsOf_cons, itemsOf_nil, List.cons_append, List.nil_append, Keys,
      List.forall_mem_cons]
    exact ⟨⟨rfl, rfl⟩, ⟨rfl, rfl⟩, ⟨rfl, rfl⟩, ⟨rfl, rfl⟩, ⟨rfl, rfl⟩, by simp⟩
  have hone : (Value.int 1).Collides (.bool true) :=
    .inl ((Value.equals_iff_of_toRat? rfl rfl).mpr (by simp))
  have hcollision : ¬DistinctKeys idOf (itemsOf mixedPages) := fun hdistinct =>
    (List.pairwise_cons.mp hdistinct).1 (keyed (.bool true)) (by simp) hone
  have hlinked : Linked true mixedPages := ⟨rfl, rfl, rfl, rfl, trivial⟩
  obtain ⟨-, -, -, hrefused⟩ := index_of_script hlinked rfl hkeys [] [] .fresh rfl
  obtain ⟨read, p, unread, first, item, last, stream', hps, -, -, -, hindex⟩ :=
    hrefused hcollision
  simp only [List.append_nil, List.nil_append] at hindex
  have hmessage : (match
      (Script.source.index false byId ⟨.fresh, ⟨mixedPages.map .ok, []⟩⟩).1 with
    | .error fault => fault.message?
    | .ok _ => none) = some "Duplicate key True in query results" := by
    decide +kernel
  have htargets :
      (Script.source.index false byId ⟨.fresh, ⟨mixedPages.map .ok, []⟩⟩).2.outside.targets =
        [none, some ⟨"a", by decide⟩, some ⟨"b", by decide⟩] := by
    decide +kernel
  rw [hindex] at hmessage htargets
  exact ⟨_, read, p, unread, stream', hps, hindex, hmessage, htargets⟩

/-- An item whose key is the NaN of a text. -/
def nanItem : Item :=
  keyed (.float (.nan Binary64.textOrigin))

/-- Keys that are equal to none do not always make an index. -/
theorem index_nanItems :
    ¬∀ (ps : List (Page Int Item)) (key : Item → Value), Linked true ps →
      openAfter true ps = false → Keys byId key (itemsOf ps) →
      ((itemsOf ps).Pairwise fun earlier later => ¬(key earlier).Equals (key later)) →
      ∃ entries, (Script.source.index false byId ⟨.fresh, ⟨ps.map .ok, []⟩⟩).1 = .ok entries := by
  intro h
  have hkeys : Keys byId idOf [nanItem, nanItem] :=
    List.forall_mem_cons.mpr ⟨⟨rfl, rfl⟩, List.forall_mem_singleton.mpr ⟨rfl, rfl⟩⟩
  have hunequal (v : Value) : ¬(idOf nanItem).Equals v := fun hequal => by cases hequal.1
  obtain ⟨entries, hentries⟩ := h [⟨[nanItem, nanItem], none, none⟩] idOf ⟨rfl, trivial⟩ rfl hkeys
    (.cons (fun later _ => hunequal (idOf later)) (List.pairwise_singleton _ _))
  cases hentries

end PageSource

end PagedTables
