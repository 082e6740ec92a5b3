import CommitmentLog.Http.Message
import CommitmentLog.Proofs.Ledger.Append
import Mathlib.Data.List.Basic

/-!
# Walking through the ledger by pages

A walk asks for one page after the other, each behind the last leaf of the page before, until a page is
empty.  Identities may be appended meanwhile.  What a walk has seen is always a beginning of what is stored:
a page goes on exactly where the one before it ended, and a new identity stands behind all that has been
seen.  So a walk that comes to its end has seen the identities that its last call found, each once and in
their order.
-/

set_option autoImplicit false

namespace CommitmentLog

open Store

namespace Tables

/-- Identities as a store holds them: in the order of their leaves, no leaf twice, and each leaf one that a
statement can name.  There may be gaps. -/
structure Stored (tables : Tables) : Prop where
  ascending : tables.identities.Pairwise fun first second => first.leafIndex < second.leafIndex
  fit : ∀ identity ∈ tables.identities, Statement.fits identity.leafIndex = true

instance (tables : Tables) : Decidable tables.Stored :=
  decidable_of_iff (_ ∧ _)
    ⟨fun ⟨ascending, fit⟩ => ⟨ascending, fit⟩, fun ⟨ascending, fit⟩ => ⟨ascending, fit⟩⟩

def Highest (tables : Tables) (leaf : Int) : Prop :=
  (∀ other ∈ tables.identities, other.leafIndex < leaf) ∧ Statement.fits leaf = true

instance (tables : Tables) (leaf : Int) : Decidable (tables.Highest leaf) :=
  inferInstanceAs (Decidable (_ ∧ _))

/-- What tables may become when nothing but new identities is written to the ledger, each at a leaf above all
others.  Checkpoints may change at will. -/
inductive Raised (tables : Tables) : Tables → Prop where
  | same : Raised tables tables
  | append {middle after : Tables} {schema : Schema} {conditions : Conditions} {commitment : Bytes}
      {leafIndex : Option Int} {leaf : Int} (earlier : Raised tables middle)
      (appended : Ledger.append schema conditions middle commitment leafIndex = .ok (leaf, after))
      (highest : middle.Highest leaf) : Raised tables after
  | put {middle after : Tables} {schema : Schema} {conditions : Conditions} {identity : Identity}
      (earlier : Raised tables middle)
      (put : Ledger.put schema conditions middle identity = .ok after)
      (highest : middle.Highest identity.leafIndex) : Raised tables after
  | checkpoints {middle : Tables} {checkpoints : List Checkpoint} (earlier : Raised tables middle) :
      Raised tables { middle with checkpoints }

variable {tables later : Tables}

theorem Stored.place_highest (stored : tables.Stored) (identity : Identity)
    (highest : tables.Highest identity.leafIndex) :
    ({ tables with
        identities := place (·.leafIndex) identity tables.identities } : Tables).Stored ∧
      tables.identities <+: place (·.leafIndex) identity tables.identities := by
  obtain ⟨above, fit⟩ := highest
  have last : place (·.leafIndex) identity tables.identities = tables.identities ++ [identity] :=
    place_of_last _ _ _ fun other member => Int.le_of_lt (above other member)
  rw [last]
  refine ⟨⟨?_, ?_⟩, List.prefix_append _ _⟩
  · exact List.pairwise_append.mpr ⟨stored.ascending, List.pairwise_singleton _ _, by simpa using above⟩
  · intro other member
    rcases List.mem_append.mp member with old | new
    · exact stored.fit other old
    · rw [List.mem_singleton.mp new]
      exact fit

theorem Raised.extends (raised : tables.Raised later) (stored : tables.Stored) :
    later.Stored ∧ tables.identities <+: later.identities := by
  induction raised with
  | same => exact ⟨stored, List.prefix_rfl⟩
  | append _ appended highest inductionHypothesis =>
      obtain ⟨middleStored, begun⟩ := inductionHypothesis
      obtain ⟨_, _, placed⟩ := Ledger.append_ok appended
      rw [placed]
      exact (middleStored.place_highest _ highest).imp id begun.trans
  | put _ put highest inductionHypothesis =>
      obtain ⟨middleStored, begun⟩ := inductionHypothesis
      have placed := Ledger.put_ok put
      rw [placed]
      exact (middleStored.place_highest _ highest).imp id begun.trans
  | checkpoints _ inductionHypothesis =>
      obtain ⟨middleStored, begun⟩ := inductionHypothesis
      exact ⟨⟨middleStored.ascending, middleStored.fit⟩, begun⟩

end Tables

namespace Ledger

variable {tables : Tables} {seen rest items : List Identity}

/-! ## One page -/

def lastLeaf (identities : List Identity) : Option Int :=
  identities.getLast?.map (·.leafIndex)

theorem lastLeaf_append (seen : List Identity) (filled : items ≠ []) :
    lastLeaf (seen ++ items) = lastLeaf items := by
  rw [lastLeaf, lastLeaf, List.getLast?_append, List.getLast?_eq_some_getLast filled, Option.some_or]

theorem behind_lastLeaf
    (ascending : (seen ++ rest).Pairwise fun first second => first.leafIndex < second.leafIndex) :
    behind (seen ++ rest) (lastLeaf seen) = rest := by
  rcases List.eq_nil_or_concat' seen with rfl | ⟨init, last, rfl⟩
  · rfl
  · obtain ⟨seenAscending, _, apart⟩ := List.pairwise_append.mp ascending
    obtain ⟨_, _, initBelow⟩ := List.pairwise_append.mp seenAscending
    have cursor : lastLeaf (init ++ [last]) = some last.leafIndex := by simp [lastLeaf]
    have noneSeen : (init ++ [last]).filter (fun identity => last.leafIndex < identity.leafIndex) = [] := by
      rw [List.filter_eq_nil_iff]
      intro identity member
      rw [decide_eq_true_eq]
      rcases List.mem_append.mp member with before | here
      · have below := initBelow identity before last (by simp)
        omega
      · rw [List.mem_singleton.mp here]
        omega
    have allBehind : rest.filter (fun identity => last.leafIndex < identity.leafIndex) = rest := by
      rw [List.filter_eq_self]
      intro identity member
      exact decide_eq_true (apart last (by simp) identity member)
    rw [cursor, behind, List.filter_append, noneSeen, allBehind, List.nil_append]

theorem lastLeaf_fits (stored : tables.Stored) (begun : seen <+: tables.identities) :
    ∀ value ∈ lastLeaf seen, Statement.fits value = true := by
  intro value here
  obtain ⟨last, found, rfl⟩ := Option.map_eq_some_iff.mp here
  exact stored.fit last (begun.subset (List.mem_of_getLast? found))

/-- A page holds the next identities behind those that have been seen. -/
theorem page_lastLeaf (stored : tables.Stored) (split : tables.identities = seen ++ rest) {limit : Int}
    (positive : 1 ≤ limit) (fit : Statement.fits limit = true) :
    page tables (lastLeaf seen) limit =
      .ok { items := rest.take limit.toNat, next := lastLeaf (rest.take limit.toNat) } := by
  have begun : seen <+: tables.identities := by
    rw [split]
    exact List.prefix_append _ _
  have ascending := stored.ascending
  rw [split] at ascending
  have notNegative : ¬limit < 0 := by omega
  rw [page, mapM_bound, if_pos (lastLeaf_fits stored begun)]
  simp only [bound_of_fits fit, split, behind_lastLeaf ascending, limited, if_neg notNegative, bind,
    Except.bind]
  rfl

/-! ## Walks -/

structure Call where
  tables : Tables
  limit : Int

structure Visit where
  call : Call
  page : Page

/-- The visits of a walk that begins at a cursor.  Each call begins at the cursor of the page before; after a
page without a cursor no further call is made. -/
def walk : Option Int → List Call → Except Failure (List Visit)
  | _, [] => .ok []
  | cursor, call :: rest => do
      let page ← page call.tables cursor call.limit
      match page.next with
      | none => .ok [{ call, page }]
      | some next => .ok ({ call, page } :: (← walk (some next) rest))

def itemsOf (visits : List Visit) : List Identity :=
  visits.flatMap (·.page.items)

def written (visits : List Visit) : List Json :=
  visits.flatMap fun visit => visit.page.items.map Identity.json

def Ended (visits : List Visit) : Prop :=
  ∃ last ∈ visits.getLast?, last.page.next = none

theorem Ended.cons {visits : List Visit} (ended : Ended visits) (visit : Visit) :
    Ended (visit :: visits) := by
  obtain ⟨last, atEnd, noCursor⟩ := ended
  refine ⟨last, ?_, noCursor⟩
  rw [List.getLast?_cons, atEnd]
  rfl

/-- The tables that the calls find have come of the given ones by appending, call after call. -/
def Along (tables : Tables) (calls : List Call) : Prop :=
  List.IsChain Tables.Raised (tables :: calls.map (·.tables))

theorem Along.stored {calls : List Call} (along : Along tables calls) (stored : tables.Stored) :
    ∀ call ∈ calls, call.tables.Stored := by
  induction calls generalizing tables with
  | nil => simp
  | cons call rest inductionHypothesis =>
      obtain ⟨raised, onward⟩ := List.isChain_cons_cons.mp along
      obtain ⟨callStored, _⟩ := raised.extends stored
      intro other member
      rcases List.mem_cons.mp member with rfl | later
      · exact callStored
      · exact inductionHypothesis onward callStored other later

theorem walk_cons {call : Call} {cursor : Option Int} {calls : List Call} {items : List Identity}
    (paged : page call.tables cursor call.limit = .ok { items, next := lastLeaf items }) :
    walk cursor (call :: calls) =
      if items = [] then .ok [{ call, page := { items := [], next := none } }]
      else (walk (lastLeaf items) calls).map
        fun visits => { call, page := { items, next := lastLeaf items } } :: visits := by
  rw [walk, paged]
  rcases List.eq_nil_or_concat' items with rfl | ⟨init, last, rfl⟩
  · rfl
  · rw [if_neg (by simp)]
    have cursor : lastLeaf (init ++ [last]) = some last.leafIndex := by simp [lastLeaf]
    simp only [cursor, bind, Except.bind]
    cases walk (some last.leafIndex) calls <;> rfl

/-- How a walk goes on that has seen some identities: it has no more calls, or there is nothing more to see,
or a page adds to what has been seen. -/
inductive Walked : List Identity → List Call → List Visit → Prop where
  | halted {seen : List Identity} : Walked seen [] []
  | ended {seen : List Identity} {call : Call} {rest : List Call} (complete : seen = call.tables.identities) :
      Walked seen (call :: rest) [{ call, page := { items := [], next := none } }]
  | onward {seen items : List Identity} {call : Call} {rest : List Call} {visits : List Visit}
      (filled : items ≠ []) (begun : seen ++ items <+: call.tables.identities)
      (later : Walked (seen ++ items) rest visits) :
      Walked seen (call :: rest) ({ call, page := { items, next := lastLeaf items } } :: visits)

theorem walk_walked (calls : List Call) (stored : tables.Stored) (begun : seen <+: tables.identities)
    (along : Along tables calls)
    (limits : ∀ call ∈ calls, 1 ≤ call.limit ∧ Statement.fits call.limit = true) :
    ∃ visits, walk (lastLeaf seen) calls = .ok visits ∧ Walked seen calls visits := by
  induction calls generalizing tables seen with
  | nil => exact ⟨[], rfl, .halted⟩
  | cons call rest inductionHypothesis =>
      obtain ⟨raised, onward⟩ := List.isChain_cons_cons.mp along
      obtain ⟨callStored, grown⟩ := raised.extends stored
      obtain ⟨ahead, split⟩ := begun.trans grown
      obtain ⟨positive, fit⟩ := limits call (by simp)
      rw [walk_cons (page_lastLeaf callStored split.symm positive fit)]
      split
      case isTrue nothing =>
        have exhausted : ahead = [] := by
          rcases List.take_eq_nil_iff.mp nothing with noRoom | empty
          · omega
          · exact empty
        rw [exhausted, List.append_nil] at split
        exact ⟨_, rfl, .ended split⟩
      case isFalse filled =>
        have begunNext : seen ++ ahead.take call.limit.toNat <+: call.tables.identities := by
          rw [← split]
          exact (List.prefix_append_right_inj seen).mpr (List.take_prefix _ _)
        obtain ⟨visits, walked, later⟩ := inductionHypothesis callStored begunNext onward
          fun other member => limits other (List.mem_cons_of_mem call member)
        rw [lastLeaf_append seen filled] at walked
        rw [walked]
        exact ⟨_, rfl, .onward filled begunNext later⟩

theorem written_eq (visits : List Visit) : written visits = (itemsOf visits).map Identity.json := by
  rw [written, itemsOf, List.map_flatMap]

namespace Walked

variable {calls : List Call} {visits : List Visit}

theorem inOrder (walked : Walked seen calls visits) : visits.map (·.call) <+: calls := by
  induction walked with
  | halted => exact List.prefix_rfl
  | ended => simp
  | onward _ _ _ inductionHypothesis => simpa using inductionHypothesis

theorem complete (walked : Walked seen calls visits) {last : Visit} (atEnd : last ∈ visits.getLast?)
    (noCursor : last.page.next = none) : seen ++ itemsOf visits = last.call.tables.identities := by
  induction walked with
  | halted => cases atEnd
  | ended complete =>
      cases atEnd
      simpa [itemsOf] using complete
  | @onward seen items call rest visits filled begun later inductionHypothesis =>
      cases visits with
      | nil =>
          cases atEnd
          simp [lastLeaf, filled] at noCursor
      | cons visit others =>
          rw [List.getLast?_cons_cons] at atEnd
          have seenAll := inductionHypothesis atEnd
          rw [List.append_assoc] at seenAll
          exact seenAll

/-- Every call of a walk that has not ended has added to what was seen, and the last one still has all of
it. -/
theorem unended (walked : Walked seen calls visits) (noEnd : ¬Ended visits) :
    calls.length ≤ (itemsOf visits).length ∧
      ∀ last ∈ calls.getLast?, seen ++ itemsOf visits <+: last.tables.identities := by
  induction walked with
  | halted => exact ⟨Nat.le_refl _, by simp⟩
  | ended => exact absurd ⟨_, rfl, rfl⟩ noEnd
  | @onward seen items call rest visits filled begun later inductionHypothesis =>
      obtain ⟨enough, beginning⟩ := inductionHypothesis fun ended => noEnd (ended.cons _)
      have added : 0 < items.length := List.length_pos_iff.mpr filled
      have together : itemsOf ({ call, page := { items, next := lastLeaf items } } :: visits) =
          items ++ itemsOf visits := rfl
      rw [together, List.length_append, List.length_cons, ← List.append_assoc]
      refine ⟨by omega, ?_⟩
      cases rest with
      | nil =>
          cases later
          simpa [itemsOf] using begun
      | cons next others =>
          rw [List.getLast?_cons_cons]
          exact beginning

theorem ended_of_long (walked : Walked seen calls visits)
    (long : ∃ last ∈ calls.getLast?, last.tables.identities.length < calls.length) : Ended visits := by
  by_contra noEnd
  obtain ⟨enough, beginning⟩ := walked.unended noEnd
  obtain ⟨last, atEnd, short⟩ := long
  have within := (beginning last atEnd).length_le
  rw [List.length_append] at within
  omega

end Walked

/-! ## The number of calls -/

theorem pages_succ {count limit : Nat} (filled : 1 ≤ count) (positive : 1 ≤ limit) :
    (count + limit - 1) / limit = (count - limit + limit - 1) / limit + 1 := by
  have shifted : count + limit - 1 = count - 1 + limit := by omega
  rw [shifted, Nat.add_div_right _ positive]
  rcases Nat.lt_or_ge limit count with more | last
  · have same : count - limit + limit - 1 = count - 1 := by omega
    rw [same]
  · have below : count - limit + limit - 1 < limit := by omega
    rw [Nat.div_eq_of_lt below, Nat.div_eq_of_lt (by omega)]

/-- Without an append, pages of a constant size come to an end behind the number of pages that the identities
fill, the last of which may be filled in part, and one empty page. -/
theorem walk_replicate (stored : tables.Stored) {limit : Nat} (positive : 1 ≤ limit)
    (fit : Statement.fits limit = true) (spare number : Nat)
    (split : tables.identities = seen ++ rest) (pages : (rest.length + limit - 1) / limit = number) :
    ∃ visits,
      walk (lastLeaf seen) (List.replicate (number + 1 + spare) { tables, limit }) = .ok visits ∧
        visits.length = number + 1 ∧ Ended visits := by
  induction number generalizing seen rest with
  | zero =>
      have below := (Nat.div_eq_zero_iff_lt positive).mp pages
      have exhausted : rest = [] := List.length_eq_zero_iff.mp (by omega)
      have paged := page_lastLeaf stored split (by omega) fit
      rw [exhausted, List.take_nil] at paged
      rw [Nat.add_comm, List.replicate_succ, walk_cons paged, if_pos rfl]
      exact ⟨_, rfl, rfl, _, rfl, rfl⟩
  | succ number inductionHypothesis =>
      have reached : limit ≤ rest.length + limit - 1 := by
        by_contra below
        rw [Nat.div_eq_of_lt (by omega)] at pages
        cases pages
      have filled : rest.take limit ≠ [] := by
        rw [← List.length_pos_iff, List.length_take]
        omega
      have fewer : ((rest.drop limit).length + limit - 1) / limit = number := by
        rw [pages_succ (by omega) positive] at pages
        rw [List.length_drop]
        exact Nat.succ.inj pages
      have onward : tables.identities = (seen ++ rest.take limit) ++ rest.drop limit := by
        rw [List.append_assoc, List.take_append_drop, split]
      obtain ⟨visits, walked, length, ended⟩ := inductionHypothesis onward fewer
      rw [lastLeaf_append seen filled] at walked
      have paged := page_lastLeaf stored split (by omega) fit
      rw [Int.toNat_natCast] at paged
      rw [Nat.add_right_comm _ 1 spare, List.replicate_succ, walk_cons paged, if_neg filled, walked]
      exact ⟨_, rfl, congrArg Nat.succ length, ended.cons _⟩

/-! ## Whole walks -/

/-- Whatever the limits and the appends between the calls, a walk that comes to its end has returned exactly
the identities that its last call found, in the order of their leaves and so each once; and it comes to its
end if there are more calls than identities.  Without an append and with one limit, the number of calls is
the number of full and partial pages, and one. -/
theorem walk_returns_all (tables : Tables) (stored : tables.Stored) (calls : List Call)
    (along : Along tables calls)
    (limits : ∀ call ∈ calls, 1 ≤ call.limit ∧ Statement.fits call.limit = true) :
    (∃ visits, walk none calls = .ok visits ∧ visits.map (·.call) <+: calls ∧
      (∀ last ∈ visits.getLast?, last.page.next = none →
        itemsOf visits = last.call.tables.identities ∧
        ((itemsOf visits).Pairwise fun first second => first.leafIndex < second.leafIndex) ∧
        written visits = last.call.tables.identities.map fun identity =>
          .object [("leaf_index", .integer identity.leafIndex),
            ("commitment", .string (Hex.prefixed identity.commitment))]) ∧
      ((∃ last ∈ calls.getLast?, last.tables.identities.length < calls.length) → Ended visits)) ∧
    ∀ limit : Nat, 1 ≤ limit → Statement.fits limit = true → ∀ spare : Nat,
      let needed := (tables.identities.length + limit - 1) / limit + 1
      ∃ visits, walk none (List.replicate (needed + spare) { tables, limit }) = .ok visits ∧
        visits.length = needed ∧ Ended visits := by
  constructor
  · obtain ⟨visits, made, walked⟩ := walk_walked calls stored List.nil_prefix along limits
    refine ⟨visits, made, walked.inOrder, ?_, walked.ended_of_long⟩
    intro last atEnd noCursor
    have all : itemsOf visits = last.call.tables.identities := walked.complete atEnd noCursor
    have made : last.call ∈ calls :=
      walked.inOrder.subset (List.mem_map_of_mem (List.mem_of_getLast? atEnd))
    rw [written_eq, all]
    exact ⟨rfl, (along.stored stored last.call made).ascending, rfl⟩
  · intro limit positive fit spare
    exact walk_replicate stored positive fit spare _ (List.nil_append _).symm rfl

/-- Identities at leaves 0 and 1; then one is appended, and one is put far behind. -/
theorem walk_returns_all_amidWrites :
    let start : Tables :=
      { identities := [{ leafIndex := 0, commitment := [5] }, { leafIndex := 1, commitment := [6] }] }
    let grown : Tables := { identities := start.identities ++ [{ leafIndex := 2, commitment := [5] }] }
    let gapped : Tables := { identities := grown.identities ++ [{ leafIndex := 9, commitment := [8] }] }
    let calls : List Call :=
      [{ tables := start, limit := 1 }, { tables := grown, limit := 5 }, { tables := gapped, limit := 2 },
       { tables := gapped, limit := 1 }, { tables := gapped, limit := 3 }]
    start.Stored ∧ Along start calls ∧
      (∀ call ∈ calls, 1 ≤ call.limit ∧ Statement.fits call.limit = true) ∧
      (∃ visits, walk none calls = .ok visits ∧ Ended visits ∧
        ∀ last ∈ visits.getLast?, last.page.next = none →
          itemsOf visits = last.call.tables.identities) ∧
      ∃ visits, walk none (List.replicate 7 { tables := start, limit := 2 }) = .ok visits ∧
        visits.length = 2 ∧ Ended visits := by
  intro start grown gapped calls
  have stored : start.Stored := by decide
  have appended : Ledger.append .declared {} start [5] none = .ok (2, grown) := rfl
  have put : Ledger.put .declared {} grown { leafIndex := 9, commitment := [8] } = .ok gapped := rfl
  have raised : start.Raised grown := .append .same appended (by decide)
  have raisedAgain : grown.Raised gapped := .put .same put (by decide)
  have along : Along start calls :=
    .cons_cons .same (.cons_cons raised (.cons_cons raisedAgain
      (.cons_cons .same (.cons_cons .same (.singleton _)))))
  have limits : ∀ call ∈ calls, 1 ≤ call.limit ∧ Statement.fits call.limit = true := by decide
  obtain ⟨⟨visits, walked, _, complete, ends⟩, constant⟩ :=
    walk_returns_all start stored calls along limits
  have ended : Ended visits := ends ⟨_, rfl, by decide⟩
  have pages : (start.identities.length + 2 - 1) / 2 + 1 = 2 := by decide
  have twoPages := constant 2 (by decide) (by decide) 5
  simp only [pages] at twoPages
  exact ⟨stored, along, limits,
    ⟨visits, walked, ended, fun last atEnd noCursor => (complete last atEnd noCursor).1⟩, twoPages⟩

/-- A limit beyond sixty-four bits is not one that a statement can name: such a call has no page, even of an
empty ledger. -/
theorem walk_refused_of_huge_limit :
    let calls : List Call := [{ tables := {}, limit := 9223372036854775808 }]
    ({} : Tables).Stored ∧ Along {} calls ∧ (∀ call ∈ calls, 1 ≤ call.limit) ∧
      walk none calls = .error .integerTooLarge := by
  refine ⟨by decide, ?_, by decide, rfl⟩
  exact .cons_cons .same (.singleton _)

end Ledger

end CommitmentLog
