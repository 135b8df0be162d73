import QueryFilter.Proofs.Filter.Independence
import QueryFilter.Proofs.Filter.Strictness
import QueryFilter.Proofs.Order.Clauses
import QueryFilter.Proofs.Order.Sorting
import QueryFilter.Sql

/-!
# Orders that sort by nothing

A value that offers clauses sets the order, and a clause is a column when it has a character that is not
blank. So only clauses of blanks make an order without columns: the fragment has a sort clause then and the
sort document has no key. For all other values an order that is set sorts by something, and the fragment and
the document of a filter agree on whether rows are sorted.
-/

namespace QueryFilter

/-! ## Clauses of a value -/

namespace Request

/-- The value offers the text as a clause: it is this text, or an array in which it stands. -/
def Offers (value : Json) (clause : String) : Prop :=
  value = .string clause ∨ ∃ elements, value = .array elements ∧ .string clause ∈ elements

/-- The value offers a clause with a character that is not blank. -/
def OffersUsable (value : Json) : Prop :=
  ∃ clause, Offers value clause ∧ Text.isVisible clause.toList = true

/-- The value offers clauses, and all of them have blanks only. -/
def OffersBlanksOnly (value : Json) : Prop :=
  (∃ clause, Offers value clause) ∧ ¬OffersUsable value

/-- Offered clauses and usable ones come together unless blanks only are offered. -/
theorem offers_iff_usable_iff
    {value : Json} :
    ((∃ clause, Offers value clause) ↔ OffersUsable value) ↔ ¬OffersBlanksOnly value := by
  constructor
  · rintro agree ⟨offers, unusable⟩
    exact unusable (agree.1 offers)
  · intro notBlank
    refine ⟨?_, fun ⟨clause, offers, _⟩ => ⟨clause, offers⟩⟩
    intro offers
    by_contra unusable
    exact notBlank ⟨offers, unusable⟩

theorem clause?_eq_some_iff
    {value : Json}
    {clause : String} :
    clause? value = some clause ↔ value = .string clause := by
  cases value <;> simp [clause?]

/-- Texts and arrays are accepted as orders, and their clauses are what they offer. -/
theorem order_cases (value : Json) :
    (∃ clauses, order value = .ok (Order.ofClauses? clauses) ∧ ∀ clause, clause ∈ clauses ↔ Offers value clause) ∨
      order value = .error (.invalidField .order) ∧ ∀ clause, ¬Offers value clause := by
  cases value with
  | string text => exact .inl ⟨[text], rfl, by simp [Offers, eq_comm]⟩
  | array elements =>
      refine .inl ⟨elements.filterMap clause?, rfl, ?_⟩
      intro clause
      simp [Offers, List.mem_filterMap, clause?_eq_some_iff]
  | _ => exact .inr ⟨rfl, by simp [Offers]⟩

/-- The clauses of an accepted order are those that the value offers. -/
theorem exists_clauses_of_order_eq_ok
    {value : Json}
    {order? : Option Order}
    (accepted : order value = .ok order?) :
    ∃ clauses, order? = Order.ofClauses? clauses ∧ ∀ clause, clause ∈ clauses ↔ Offers value clause := by
  rcases order_cases value with ⟨clauses, made, offered⟩ | ⟨rejected, -⟩
  · rw [made] at accepted
    exact ⟨clauses, (Except.ok.inj accepted).symm, offered⟩
  · rw [rejected] at accepted
    cases accepted

end Request

/-- Only no columns leave nothing when they are placed one after another. -/
theorem SortColumn.foldl_place_eq_nil_iff
    {columns : List SortColumn} :
    columns.foldl place [] = [] ↔ columns = [] := by
  constructor
  · intro nothing
    -- every name of a column stays, so there is no column
    have names := map_name_foldl_place columns
    rw [nothing] at names
    rw [List.eq_nil_iff_forall_not_mem]
    intro column listed
    have named : column.name ∈ (columns.map name).eraseDups :=
      List.mem_eraseDups.2 (List.mem_map_of_mem listed)
    rw [← names] at named
    cases named
  · rintro rfl
    rfl

namespace Order

theorem ofClauses?_eq_none_iff
    {clauses : List String} :
    ofClauses? clauses = none ↔ ∀ clause, clause ∉ clauses := by
  rw [← List.eq_nil_iff_forall_not_mem]
  cases clauses <;> simp [ofClauses?]

/-- An order has no columns exactly when all its clauses have blanks only. -/
theorem columns_eq_nil_iff
    {order : Order} :
    order.columns = [] ↔ ∀ clause ∈ order.clauses, Text.isVisible clause.toList = false := by
  rw [columns, List.filterMap_eq_nil_iff]
  refine forall₂_congr fun clause _ => ?_
  constructor
  · intro noColumn
    by_contra visible
    obtain ⟨column, text, found, -⟩ := SortColumn.exists_ofClause?_eq_some (Bool.not_eq_false _ ▸ visible)
    rw [noColumn] at found
    cases found
  · exact SortColumn.ofClause?_eq_none

/-- An order has a column exactly when one of its clauses is not blank. -/
theorem columns_ne_nil_iff
    {order : Order} :
    order.columns ≠ [] ↔ ∃ clause ∈ order.clauses, Text.isVisible clause.toList = true := by
  simp [Ne, columns_eq_nil_iff]

/-- Of clauses an order with columns is made exactly when one of them is not blank. -/
theorem exists_columns_ne_nil_iff
    {clauses : List String} :
    (∃ order ∈ ofClauses? clauses, order.columns ≠ []) ↔ ∃ clause ∈ clauses, Text.isVisible clause.toList = true := by
  constructor
  · rintro ⟨order, made, sorts⟩
    rw [← (ofClauses?_eq_some_iff.1 made).2]
    exact columns_ne_nil_iff.1 sorts
  · rintro ⟨clause, listed, visible⟩
    refine ⟨⟨clauses⟩, ofClauses?_eq_some_iff.2 ⟨List.ne_nil_of_mem listed, rfl⟩, ?_⟩
    exact columns_ne_nil_iff.2 ⟨clause, listed, visible⟩

/-- The sort document has a key exactly when the order has a column. -/
theorem exists_mongo_eq_cons_iff
    {order : Order} :
    (∃ first rest, order.mongo = .object (first :: rest)) ↔ order.columns ≠ [] := by
  rw [Ne, ← SortColumn.foldl_place_eq_nil_iff, mongo_eq_placed]
  simp [← List.ne_nil_iff_exists_cons]

end Order

namespace Request

/-- The order of a value is unset exactly when the value offers no clause at all. -/
theorem order_eq_none_iff
    {value : Json}
    {order? : Option Order}
    (accepted : order value = .ok order?) :
    order? = none ↔ ∀ clause, ¬Offers value clause := by
  obtain ⟨clauses, rfl, offered⟩ := exists_clauses_of_order_eq_ok accepted
  simp only [Order.ofClauses?_eq_none_iff, offered]

/-- The order of a value has a column exactly when the value offers a usable clause. -/
theorem exists_columns_iff
    {value : Json}
    {order? : Option Order}
    (accepted : order value = .ok order?) :
    (∃ order ∈ order?, order.columns ≠ []) ↔ OffersUsable value := by
  obtain ⟨clauses, rfl, offered⟩ := exists_clauses_of_order_eq_ok accepted
  simp only [Order.exists_columns_ne_nil_iff, offered, OffersUsable]

/-- Clauses of blanks only make an order without columns. -/
theorem exists_columns_eq_nil
    {value : Json}
    {order? : Option Order}
    (accepted : order value = .ok order?)
    (blank : OffersBlanksOnly value) :
    ∃ order ∈ order?, order.columns = [] := by
  obtain ⟨⟨clause, offers⟩, unusable⟩ := blank
  have isSet : order? ≠ none := fun unset => (order_eq_none_iff accepted).1 unset clause offers
  obtain ⟨order, isOrder⟩ := Option.ne_none_iff_exists'.1 isSet
  refine ⟨order, isOrder, ?_⟩
  by_contra someColumn
  exact unusable ((exists_columns_iff accepted).1 ⟨order, isOrder, someColumn⟩)

/-- Without clauses of blanks only, the order is unset exactly when no usable clause is offered. -/
theorem order_eq_none_iff_of_not_offersBlanksOnly
    {value : Json}
    {order? : Option Order}
    (accepted : order value = .ok order?)
    (notBlank : ¬OffersBlanksOnly value) :
    order? = none ↔ ¬OffersUsable value := by
  rw [order_eq_none_iff accepted, ← not_exists, offers_iff_usable_iff.2 notBlank]

/-- Without clauses of blanks only, an order that is set has columns. -/
theorem columns_ne_nil_of_not_offersBlanksOnly
    {value : Json}
    {order? : Option Order}
    (accepted : order value = .ok order?)
    (notBlank : ¬OffersBlanksOnly value) :
    ∀ order ∈ order?, order.columns ≠ [] := by
  rintro order rfl
  have usable : OffersUsable value := by
    by_contra unusable
    cases (order_eq_none_iff_of_not_offersBlanksOnly accepted notBlank).2 unusable
  obtain ⟨other, isOther, someColumn⟩ := (exists_columns_iff accepted).2 usable
  rwa [Option.some.inj isOther]

end Request

namespace Filter

/-! ## Sorting in the fragment and in the document -/

/-- The fragment of the filter has a sort clause, without which it is that of the filter without an order. -/
def WritesOrder (filter : Filter) : Prop :=
  ∃ front clauses back, filter.sql = front ++ " ORDER BY " ++ clauses ++ back ∧
    { filter with order := none }.sql = front ++ back

/-- The document of the filter has a sort document with a key. -/
def HasSortKey (filter : Filter) : Prop :=
  ∃ (members : Members) (first : String × Json) (rest : Members),
    filter.mongo = .object members ∧ members.get? "sort" = some (.object (first :: rest))

/-- A sort clause is written for every order that is set. -/
theorem writesOrder_iff
    {filter : Filter} :
    filter.WritesOrder ↔ filter.order ≠ none := by
  constructor
  · rintro ⟨front, clauses, back, withOrder, without⟩ unset
    have same : { filter with order := none } = filter := by rw [← unset]
    rw [same, withOrder] at without
    -- the keyword makes the fragment longer than what is left without it
    have lengths := congrArg String.length without
    simp only [String.length_append] at lengths
    have keyword : " ORDER BY ".length = 10 := rfl
    omega
  · intro isSet
    obtain ⟨order, isOrder⟩ := Option.ne_none_iff_exists'.1 isSet
    refine ⟨clauseSql "WHERE" (filter.condition.map Condition.sql), order.sql,
      clauseSql "LIMIT" (filter.limit.map countText) ++ clauseSql "OFFSET" (filter.skip.map countText), ?_, ?_⟩
    · simp [sql, isOrder, clauseSql, String.append_assoc]
    · simp [sql, clauseSql, String.append_assoc]

/-- The sort document of a filter is that of its order. -/
theorem exists_sort_iff
    {filter : Filter}
    {document : Json} :
    (∃ members : Members, filter.mongo = .object members ∧ members.get? "sort" = some document) ↔
      filter.order.map Order.mongo = some document := by
  have sort : Members.get?
      (Members.optional "filter" (filter.condition.map Condition.mongo) ++
        Members.optional "sort" (filter.order.map Order.mongo) ++
        Members.optional "limit" (filter.limit.map Json.ofUInt64) ++
        Members.optional "skip" (filter.skip.map Json.ofUInt64)) "sort" = filter.order.map Order.mongo := by
    simp [Members.get?_append, Members.get?_optional_of_ne]
  rw [← sort]
  simp [mongo]

/-- Only an order with columns has a sort document with a key. -/
theorem hasSortKey_iff
    {filter : Filter} :
    filter.HasSortKey ↔ ∃ order ∈ filter.order, order.columns ≠ [] := by
  have documents : filter.HasSortKey ↔
      ∃ first rest, filter.order.map Order.mongo = some (.object (first :: rest)) := by
    simp only [HasSortKey, ← exists_sort_iff]
    constructor
    · rintro ⟨members, first, rest, written⟩
      exact ⟨first, rest, members, written⟩
    · rintro ⟨first, rest, members, written⟩
      exact ⟨members, first, rest, written⟩
  rw [documents]
  cases filter.order with
  | none => simp
  | some order => simpa using Order.exists_mongo_eq_cons_iff

/-- The clauses of the order after a run are those that the value offered last offers. -/
theorem order_run (steps : List Step) :
    ∃ clauses, (empty.run steps).order = Order.ofClauses? clauses ∧
      ∀ clause, clause ∈ clauses ↔ ∃ value ∈ lastOffered? .order steps, Request.Offers value clause := by
  have held : (empty.run steps).order = (lastOffered? .order steps).elim none (Field.contentOf .order) :=
    get_run_of_ne (nofun : Field.order ≠ .condition) steps
  rw [held]
  cases lastOffered? .order steps with
  | none => exact ⟨[], rfl, by simp⟩
  | some value =>
      rcases Request.order_cases value with ⟨clauses, accepted, offered⟩ | ⟨rejected, offersNothing⟩
      · refine ⟨clauses, ?_, by simpa using offered⟩
        rw [Option.elim_some, Field.contentOf, Field.read, accepted]
      · refine ⟨[], ?_, by simpa using offersNothing⟩
        rw [Option.elim_some, Field.contentOf, Field.read, rejected]
        rfl

/-- After a run a sort clause is written exactly when the value offered last offers a clause. -/
theorem writesOrder_run_iff
    {steps : List Step} :
    (empty.run steps).WritesOrder ↔
      ∃ value ∈ lastOffered? .order steps, ∃ clause, Request.Offers value clause := by
  obtain ⟨clauses, held, offered⟩ := order_run steps
  rw [writesOrder_iff, held, Ne, Order.ofClauses?_eq_none_iff]
  push Not
  simp only [offered]
  exact ⟨fun ⟨clause, value, last, offers⟩ => ⟨value, last, clause, offers⟩,
    fun ⟨value, last, clause, offers⟩ => ⟨clause, value, last, offers⟩⟩

/-- After a run the sort document has a key exactly when the value offered last offers a usable clause. -/
theorem hasSortKey_run_iff
    {steps : List Step} :
    (empty.run steps).HasSortKey ↔ ∃ value ∈ lastOffered? .order steps, Request.OffersUsable value := by
  obtain ⟨clauses, held, offered⟩ := order_run steps
  rw [hasSortKey_iff, held, Order.exists_columns_ne_nil_iff]
  simp only [offered, Request.OffersUsable]
  constructor
  · rintro ⟨clause, ⟨value, last, offers⟩, visible⟩
    exact ⟨value, last, clause, offers, visible⟩
  · rintro ⟨value, last, clause, offers, visible⟩
    exact ⟨clause, ⟨value, last, offers⟩, visible⟩

/-- The filter of a request is the one after a run that takes in its members. -/
theorem exists_run_of_ofRequest
    {request : Json}
    {filter : Filter}
    (accepted : ofRequest request = .ok filter) :
    ∃ members, request = .object members ∧ filter = empty.run [.update members] := by
  cases request with
  | object members =>
      refine ⟨members, rfl, ?_⟩
      rw [run_cons, run_nil, after_update]
      exact (ofRequest_eq_ok_iff.1 accepted).2.symm
  | _ => cases accepted

/--
The order of a value is unset exactly when the value offers no clause. If it offers clauses of blanks only,
its order is set and has no columns; otherwise it is unset exactly when no usable clause is offered, and has
columns when it is set. After any run, of which the filter of a request is a case, a sort clause is written
exactly when the value offered last offers a clause, and the sort document has a key exactly when this value
offers a usable one; so they agree unless the value offers clauses of blanks only.
-/
theorem order_sorts_unless_blank
    (value request : Json)
    (steps : List Step) :
    (∀ order?, Request.order value = .ok order? →
      (order? = none ↔ ∀ clause, ¬Request.Offers value clause) ∧
      (Request.OffersBlanksOnly value → ∃ order ∈ order?, order.columns = []) ∧
      (¬Request.OffersBlanksOnly value →
        (order? = none ↔ ¬Request.OffersUsable value) ∧ ∀ order ∈ order?, order.columns ≠ [])) ∧
    (((empty.run steps).WritesOrder ↔
        ∃ last ∈ lastOffered? .order steps, ∃ clause, Request.Offers last clause) ∧
      ((empty.run steps).HasSortKey ↔ ∃ last ∈ lastOffered? .order steps, Request.OffersUsable last) ∧
      (((empty.run steps).WritesOrder ↔ (empty.run steps).HasSortKey) ↔
        ∀ last ∈ lastOffered? .order steps, ¬Request.OffersBlanksOnly last)) ∧
    ∀ filter, ofRequest request = .ok filter →
      ∃ members, request = .object members ∧ filter = empty.run [.update members] := by
  refine ⟨?_, ⟨writesOrder_run_iff, hasSortKey_run_iff, ?_⟩, fun filter => exists_run_of_ofRequest⟩
  · intro order? accepted
    refine ⟨Request.order_eq_none_iff accepted, Request.exists_columns_eq_nil accepted, ?_⟩
    intro notBlank
    exact ⟨Request.order_eq_none_iff_of_not_offersBlanksOnly accepted notBlank,
      Request.columns_ne_nil_of_not_offersBlanksOnly accepted notBlank⟩
  · rw [writesOrder_run_iff, hasSortKey_run_iff]
    cases lastOffered? .order steps with
    | none => simp
    | some last => simpa using Request.offers_iff_usable_iff

/-- An element that is no text, a clause of blanks and one that is a column. -/
def mixedValue : Json :=
  .array [.null, .string "\u3000", .string "year desc"]

/-- A clause of one blank. -/
def blankValue : Json :=
  .string " "

theorem offersUsable_mixedValue : Request.OffersUsable mixedValue :=
  ⟨"year desc", .inr ⟨_, rfl, by simp⟩, by decide⟩

theorem offersBlanksOnly_blankValue : Request.OffersBlanksOnly blankValue := by
  refine ⟨⟨" ", .inl rfl⟩, ?_⟩
  rintro ⟨clause, isText | ⟨elements, isArray, -⟩, visible⟩
  · obtain rfl := Json.string.inj isText
    exact absurd visible (by decide)
  · cases isArray

theorem order_sorts_unless_blank_mixedValue :
    Request.order mixedValue = .ok (some { clauses := ["\u3000", "year desc"] }) ∧
      ¬Request.OffersBlanksOnly mixedValue ∧
      Order.columns { clauses := ["\u3000", "year desc"] } ≠ [] ∧
      (empty.run [.update [("order", mixedValue)]]).WritesOrder ∧
      (empty.run [.update [("order", mixedValue)]]).HasSortKey ∧
      (∃ members, Json.object [("order", mixedValue)] = .object members ∧
        { empty with order := some { clauses := ["\u3000", "year desc"] } } = empty.run [.update members]) ∧
      Request.order blankValue = .ok (some { clauses := [" "] }) ∧
      Request.OffersBlanksOnly blankValue ∧
      (∃ order ∈ some ({ clauses := [" "] } : Order), order.columns = []) := by
  have notBlank : ¬Request.OffersBlanksOnly mixedValue := fun blank => blank.2 offersUsable_mixedValue
  have isLast : mixedValue ∈ lastOffered? .order [.update [("order", mixedValue)]] := rfl
  obtain ⟨mixed, ⟨-, sorts, agree⟩, requests⟩ :=
    order_sorts_unless_blank mixedValue (.object [("order", mixedValue)]) [.update [("order", mixedValue)]]
  obtain ⟨blank, -, -⟩ := order_sorts_unless_blank blankValue .null []
  have hasKey := sorts.2 ⟨mixedValue, isLast, offersUsable_mixedValue⟩
  have written := (agree.2 fun last offered => by rwa [Option.mem_unique offered isLast]).2 hasKey
  have someColumn := ((mixed _ rfl).2.2 notBlank).2 _ rfl
  have noColumn := (blank _ rfl).2.1 offersBlanksOnly_blankValue
  exact ⟨rfl, notBlank, someColumn, written, hasKey, requests _ rfl, rfl, offersBlanksOnly_blankValue, noColumn⟩

/-- A clause of one blank makes an order without columns, and a sort clause beside a document without a key. -/
theorem blank_order_is_kept :
    (¬∀ value order?, Request.order value = .ok order? →
      (order? = none ↔ ¬Request.OffersUsable value) ∧ ∀ order ∈ order?, order.columns ≠ []) ∧
    ¬∀ steps, (empty.run steps).WritesOrder ↔ (empty.run steps).HasSortKey := by
  have unusable := offersBlanksOnly_blankValue.2
  constructor
  · intro unset
    have accepted : Request.order blankValue = .ok (some { clauses := [" "] }) := rfl
    exact absurd ((unset blankValue _ accepted).1.2 unusable) nofun
  · intro agree
    have last : lastOffered? .order [.offer .order blankValue] = some blankValue := rfl
    have written : (empty.run [.offer .order blankValue]).WritesOrder :=
      writesOrder_run_iff.2 ⟨blankValue, last, offersBlanksOnly_blankValue.1⟩
    obtain ⟨value, isLast, usable⟩ := hasSortKey_run_iff.1 ((agree _).1 written)
    rw [Option.mem_unique isLast last] at usable
    exact unusable usable

example :
    (empty.run [.offer .order blankValue]).sql = " ORDER BY  " ∧
      (empty.run [.offer .order blankValue]).mongo = .single "sort" (.object []) :=
  ⟨rfl, rfl⟩

end Filter
end QueryFilter
