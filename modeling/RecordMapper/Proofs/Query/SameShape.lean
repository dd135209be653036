/-
This file proves that the text of a statement never depends on data. The outline of a fragment, of
a filter or of a use is what is left of it without its values; of the key of a filter or a change it
keeps no more than the field that the key names. Two runs whose inputs have the same outline send
the same texts with arguments of the same kinds, whatever their values are and whatever databases
and hooks answer. A caller can therefore put nothing into a text but the order of rows; every name
elsewhere in it is the table's or one of its columns'.
-/

import RecordMapper.Proofs.Query.Composition

namespace RecordMapper

open Sql

/-! ### Fragments -/

/-- A fragment without the value of its argument. -/
def Fragment.outline : Fragment → Fragment
  | .text sql => .text sql
  | .argument (_, kind) => .argument (.null, kind)

/-- Two lists of fragments differ in the values of their arguments at most. -/
def SameOutline (left right : List Fragment) : Prop :=
  left.map Fragment.outline = right.map Fragment.outline

theorem SameOutline.append {left right leftMore rightMore : List Fragment}
    (first : SameOutline left right) (second : SameOutline leftMore rightMore) :
    SameOutline (left ++ leftMore) (right ++ rightMore) := by
  rw [SameOutline, List.map_append, List.map_append, first, second]

theorem SameOutline.cons {left right : List Fragment} (fragment : Fragment)
    (same : SameOutline left right) : SameOutline (fragment :: left) (fragment :: right) :=
  congrArg (fragment.outline :: ·) same

/-- Outlines are separated as the items are. -/
theorem map_outline_separated (separator : String) (items : List (List Fragment)) :
    (separated separator items).map Fragment.outline =
      separated separator (items.map (List.map Fragment.outline)) := by
  induction items with
  | nil => rfl
  | cons item rest inductionHypothesis =>
    cases rest with
    | nil => rfl
    | cons next others =>
      show (item ++ .text separator :: RecordMapper.separated separator (next :: others)).map
        Fragment.outline = _
      rw [List.map_append, List.map_cons, inductionHypothesis]
      rfl

theorem SameOutline.separated (separator : String) {left right : List (List Fragment)}
    (same : left.map (List.map Fragment.outline) = right.map (List.map Fragment.outline)) :
    SameOutline (separated separator left) (separated separator right) := by
  rw [SameOutline, map_outline_separated, map_outline_separated, same]

variable {dialect : Dialect}

theorem written_outline (bound : Nat) (fragments : List Fragment) :
    written dialect bound (fragments.map Fragment.outline) = written dialect bound fragments := by
  induction fragments generalizing bound with
  | nil => rfl
  | cons fragment rest inductionHypothesis =>
    cases fragment with
    | text sql => exact congrArg (sql ++ ·) (inductionHypothesis bound)
    | argument argument => exact congrArg (_ ++ ·) (inductionHypothesis (bound + 1))

theorem kinds_outline (fragments : List Fragment) :
    (supplied (fragments.map Fragment.outline)).map Prod.snd =
      (supplied fragments).map Prod.snd := by
  induction fragments with
  | nil => rfl
  | cons fragment rest inductionHypothesis =>
    cases fragment with
    | text sql => exact inductionHypothesis
    | argument argument => exact congrArg (argument.2 :: ·) inductionHypothesis

/-- Two statements have the same text and arguments of the same kinds. -/
def Statement.Alike (left right : Statement) : Prop :=
  left.sql = right.sql ∧ left.arguments.map Prod.snd = right.arguments.map Prod.snd

/-- Fragments with the same outline make up statements that are alike. -/
theorem SameOutline.alike {left right : List Fragment} (same : SameOutline left right) :
    (Statement.ofFragments dialect left).Alike (Statement.ofFragments dialect right) := by
  rw [Statement.Alike, ofFragments_eq, ofFragments_eq]
  constructor
  · show written dialect 0 left = written dialect 0 right
    rw [← written_outline 0 left, same, written_outline]
  · show (supplied left).map Prod.snd = (supplied right).map Prod.snd
    rw [← kinds_outline left, same, kinds_outline]

/-! ### Filters -/

/-- A filter without its key and the values it compares with. -/
def Filter.outline : Filter → Filter
  | .compare comparison _ _ => .compare comparison "" .null
  | .like _ _ => .like "" .null
  | .among negated _ values => .among negated "" (values.map fun _ => .null)
  | .absent negated _ => .absent negated ""

/-- What a list of filters asks for, apart from values: of each filter the field that its key
names, and its outline. -/
def outlines (model : Model) (filters : List Filter) : List (Option Field × Filter) :=
  filters.map fun filter => (model.resolve? filter.key, filter.outline)

/-- Filters of the same outline on the same field become conditions of the same outline. -/
theorem sameOutline_of_carries {field : Field} {left right : Filter}
    {leftFound rightFound : Condition} (same : left.outline = right.outline)
    (leftCarries : Carries field left leftFound) (rightCarries : Carries field right rightFound) :
    SameOutline (leftFound.fragments dialect) (rightFound.fragments dialect) := by
  cases leftCarries with
  | compare =>
    cases rightCarries with
    | compare =>
      cases same
      rfl
    | _ => cases same
  | like =>
    cases rightCarries with
    | like => rfl
    | _ => cases same
  | constant =>
    cases rightCarries with
    | constant =>
      cases same
      rfl
    | among nonempty =>
      injection same with _ _ values
      exact absurd (List.map_eq_nil_iff.mp values.symm) nonempty
    | _ => cases same
  | @among negated key values operands nonempty come =>
    cases rightCarries with
    | constant =>
      injection same with _ _ values
      exact absurd (List.map_eq_nil_iff.mp values) nonempty
    | @among _ _ _ rightOperands _ rightCome =>
      injection same with sameNegated _ sameValues
      have lengths := congrArg List.length sameValues
      rw [List.length_map, List.length_map, come.length_eq, rightCome.length_eq] at lengths
      subst sameNegated
      refine .append (.cons _ (.separated _ ?_)) rfl
      rw [List.map_map, List.map_map]
      show operands.map (fun _ => [Fragment.argument (.null, field.kind)]) =
        rightOperands.map fun _ => [Fragment.argument (.null, field.kind)]
      rw [List.map_const', List.map_const', lengths]
    | _ => cases same
  | absent =>
    cases rightCarries with
    | absent =>
      cases same
      rfl
    | _ => cases same

theorem outlines_append (model : Model) (first second : List Filter) :
    outlines model (first ++ second) = outlines model first ++ outlines model second :=
  List.map_append

/-- Filters of the same outlines become conditions of the same outlines. -/
theorem map_outline_of_conditions {model : Model} {left right : List Filter}
    {leftFound rightFound : List Condition} (same : outlines model left = outlines model right)
    (leftCarried : conditions model left = .ok leftFound)
    (rightCarried : conditions model right = .ok rightFound) :
    leftFound.map (fun found => (found.fragments dialect).map Fragment.outline) =
      rightFound.map fun found => (found.fragments dialect).map Fragment.outline := by
  have leftCarries := Outcome.mapM_eq_ok.mp leftCarried
  have rightCarries := Outcome.mapM_eq_ok.mp rightCarried
  clear leftCarried rightCarried
  induction leftCarries generalizing right rightFound with
  | nil =>
    rw [List.map_eq_nil_iff.mp same.symm] at rightCarries
    rw [List.forall₂_nil_left_iff.mp rightCarries]
  | cons carries _ inductionHypothesis =>
    cases rightCarries with
    | nil => cases same
    | cons rightCarries rest =>
      injection same with sameHead sameRest
      injection sameHead with sameField sameFilter
      obtain ⟨field, resolved, carries⟩ := Filter.condition_eq_ok.mp carries
      obtain ⟨other, otherResolved, rightCarries⟩ := Filter.condition_eq_ok.mp rightCarries
      obtain rfl : field = other := by
        rw [resolved, otherResolved] at sameField
        exact Option.some.inj sameField
      rw [List.map_cons, List.map_cons, inductionHypothesis sameRest rest]
      exact congrArg (· :: _) (sameOutline_of_carries sameFilter carries rightCarries)

/-- Filters of the same outlines make up clauses of the same outline. -/
theorem sameOutline_of_conditions {model : Model} {left right : List Filter}
    {leftFound rightFound : List Condition} (same : outlines model left = outlines model right)
    (leftCarried : conditions model left = .ok leftFound)
    (rightCarried : conditions model right = .ok rightFound) :
    SameOutline (whereFragments dialect leftFound) (whereFragments dialect rightFound) := by
  have each : leftFound.map (fun found => (found.fragments dialect).map Fragment.outline) =
      rightFound.map fun found => (found.fragments dialect).map Fragment.outline :=
    map_outline_of_conditions same leftCarried rightCarried
  have empty : leftFound.isEmpty = rightFound.isEmpty := by
    simpa only [List.isEmpty_map] using congrArg List.isEmpty each
  unfold whereFragments
  rw [empty]
  split
  · rfl
  · refine .cons _ (.separated _ ?_)
    rw [List.map_map, List.map_map]
    exact each

/-! ### Plans -/

/-- Two plans differ in values at most: they state the same fields, and their filters have the same
outlines. -/
def Plan.SameShape (model : Model) : Plan → Plan → Prop
  | .insert left leftReturning, .insert right rightReturning =>
    insertedFields model left = insertedFields model right ∧ leftReturning = rightReturning
  | .select left leftOrder leftLimit leftOffset, .select right rightOrder rightLimit rightOffset =>
    outlines model left = outlines model right ∧ leftOrder = rightOrder ∧
      leftLimit = rightLimit ∧ leftOffset = rightOffset
  | .count left, .count right => outlines model left = outlines model right
  | .update leftAssigned left, .update rightAssigned right =>
    leftAssigned.map Prod.fst = rightAssigned.map Prod.fst ∧
      outlines model left = outlines model right
  | .delete left, .delete right => outlines model left = outlines model right
  | _, _ => False

/-- Of the values of a row only the kinds of the fields are left in an outline. -/
theorem outline_of_values {record : Record} {fields : List Field} {arguments : List Argument}
    (found : fields.mapM (fieldArgument record) = .ok arguments) :
    (arguments.map fun argument => [Fragment.argument argument]).map (List.map Fragment.outline) =
      fields.map fun field => [.argument (.null, field.kind)] := by
  have related := Outcome.mapM_eq_ok.mp found
  clear found
  induction related with
  | nil => rfl
  | cons made _ inductionHypothesis =>
    obtain ⟨operand, -, rfl⟩ := Outcome.map_eq_ok.mp made
    rw [List.map_cons, List.map_cons, inductionHypothesis]
    rfl

/-- Of assignments only the fields are left in an outline. -/
theorem outline_of_settings (assigned : List Assignment) :
    (assigned.map fun (field, value) => [Fragment.text (dialect.quote field.column ++ " = "),
        .argument (value, field.kind)]).map (List.map Fragment.outline) =
      (assigned.map Prod.fst).map fun field => [.text (dialect.quote field.column ++ " = "),
        .argument (.null, field.kind)] := by
  rw [List.map_map, List.map_map]
  rfl

/-- Plans of the same shape have statements that are alike. -/
theorem Plan.alike {model : Model} {left right : Plan} {leftBuilt rightBuilt : Statement}
    (same : left.SameShape model right) (leftOk : left.statement model dialect = .ok leftBuilt)
    (rightOk : right.statement model dialect = .ok rightBuilt) : leftBuilt.Alike rightBuilt := by
  cases left with
  | insert leftRecord leftReturning =>
    cases right with
    | insert rightRecord rightReturning =>
      obtain ⟨sameFields, rfl⟩ := same
      obtain ⟨leftArguments, leftFound, rfl⟩ := Outcome.map_eq_ok.mp leftOk
      obtain ⟨rightArguments, rightFound, rfl⟩ := Outcome.map_eq_ok.mp rightOk
      refine SameOutline.alike (.append ?_ rfl)
      rw [← sameFields] at rightFound ⊢
      unfold insertFragments
      split
      · rfl
      · refine .append (.cons _ (.separated _ ?_)) rfl
        rw [outline_of_values leftFound, outline_of_values rightFound]
    | _ => exact same.elim
  | select leftFilters leftOrder leftLimit leftOffset =>
    cases right with
    | select rightFilters rightOrder rightLimit rightOffset =>
      obtain ⟨sameFilters, rfl, rfl, rfl⟩ := same
      obtain ⟨leftFound, leftCarried, rfl⟩ := Outcome.map_eq_ok.mp leftOk
      obtain ⟨rightFound, rightCarried, rfl⟩ := Outcome.map_eq_ok.mp rightOk
      exact SameOutline.alike (.append (.append (.cons _
        (sameOutline_of_conditions sameFilters leftCarried rightCarried)) rfl) rfl)
    | _ => exact same.elim
  | count leftFilters =>
    cases right with
    | count rightFilters =>
      obtain ⟨leftFound, leftCarried, rfl⟩ := Outcome.map_eq_ok.mp leftOk
      obtain ⟨rightFound, rightCarried, rfl⟩ := Outcome.map_eq_ok.mp rightOk
      exact SameOutline.alike (.cons _ (sameOutline_of_conditions same leftCarried rightCarried))
    | _ => exact same.elim
  | update leftAssigned leftFilters =>
    cases right with
    | update rightAssigned rightFilters =>
      obtain ⟨sameFields, sameFilters⟩ := same
      obtain ⟨leftFound, leftCarried, rfl⟩ := Outcome.map_eq_ok.mp leftOk
      obtain ⟨rightFound, rightCarried, rfl⟩ := Outcome.map_eq_ok.mp rightOk
      refine SameOutline.alike (.append (.cons _ (.separated _ ?_))
        (sameOutline_of_conditions sameFilters leftCarried rightCarried))
      rw [outline_of_settings, outline_of_settings, sameFields]
    | _ => exact same.elim
  | delete leftFilters =>
    cases right with
    | delete rightFilters =>
      obtain ⟨leftFound, leftCarried, rfl⟩ := Outcome.map_eq_ok.mp leftOk
      obtain ⟨rightFound, rightCarried, rfl⟩ := Outcome.map_eq_ok.mp rightOk
      exact SameOutline.alike (.cons _ (sameOutline_of_conditions same leftCarried rightCarried))
    | _ => exact same.elim

/-! ### Uses -/

namespace Query

/-- Two queries under the same dialect and on the same model differ in values at most. -/
structure SameShape (model : Model) (left right : Query) : Prop where
  dialect : left.dialect = right.dialect
  leftModel : left.model = .ok model
  rightModel : right.model = .ok model
  filters : outlines model left.filters = outlines model right.filters
  order : left.order = right.order
  limit : left.limit = right.limit
  offset : left.offset = right.offset

/-- Two records leave the same fields to be filled by the database. -/
def SameDefaults (model : Model) (left right : Record) : Prop :=
  ∀ field ∈ model.fields, field.isDatabaseFilled = true →
    (valueAt left field.position).isDefault = (valueAt right field.position).isDefault

/-- Two lists of changes name the same fields, in the order of their names. -/
def SameKeys (model : Model) (left right : Changes) : Prop :=
  (left.entries.map fun entry => model.resolve? entry.1) =
    right.entries.map fun entry => model.resolve? entry.1

/-- Two uses are of the same sort, and what they insert or change has the same shape once the
hooks before have run. -/
def Use.SameShape (model : Model) (leftExchanges rightExchanges : List Exchange) : Use → Use → Prop
  | .create left, .create right => SameDefaults model
      (recordLeft .beforeCreate left leftExchanges) (recordLeft .beforeCreate right rightExchanges)
  | .updates _ left, .updates _ right => SameKeys model
      (changesLeft .beforeUpdate left leftExchanges)
      (changesLeft .beforeUpdate right rightExchanges)
  | .paginate left, .paginate right => left = right
  | .findById _, .findById _ | .first, .first | .find _, .find _ | .scan, .scan | .count, .count
  | .delete _, .delete _ => True
  | _, _ => False

/-- Records that leave the same fields to the database have the same fields inserted. -/
theorem SameDefaults.insertedFields {model : Model} {left right : Record}
    (same : SameDefaults model left right) :
    insertedFields model left = insertedFields model right := by
  refine List.filter_congr fun field member => ?_
  cases filled : field.isDatabaseFilled with
  | false => rfl
  | true => rw [same field member filled]

/-- The filters of keys have outlines that do not depend on the record. -/
theorem outlines_keyFilter (model : Model) (left right : Record) (keys : List Field) :
    outlines model (keys.map (keyFilter left)) = outlines model (keys.map (keyFilter right)) := by
  rw [outlines, outlines, List.map_map, List.map_map]
  rfl

/-- An assignment has the field that it is given. -/
theorem map_fst_of_assigns {given : List (Field × Value)} {assigned : List Assignment}
    (assigns : List.Forall₂ Assigns given assigned) :
    assigned.map Prod.fst = given.map Prod.fst := by
  induction assigns with
  | nil => rfl
  | cons assigns _ inductionHypothesis =>
    rw [List.map_cons, List.map_cons, inductionHypothesis, assigns.1]

/-- What is assigned has the fields that can be set among those that the changes name. -/
theorem fields_of_assigns {model : Model} {entries : List (String × Value)}
    {assigned : List Assignment}
    (assigns : List.Forall₂ Assigns (settable model entries) assigned) :
    assigned.map Prod.fst = (entries.map fun entry => model.resolve? entry.1).filterMap fun found =>
      found.bind fun field => if field.isPrimaryKey then none else some field := by
  rw [map_fst_of_assigns assigns, settable, List.map_filterMap, List.filterMap_map]
  refine congrArg (List.filterMap · entries) (funext fun entry => ?_)
  show Option.map Prod.fst ((model.resolve? entry.1).bind _) = (model.resolve? entry.1).bind _
  cases model.resolve? entry.1 with
  | none => rfl
  | some field =>
    show Option.map Prod.fst (if field.isPrimaryKey then none else some (field, entry.2)) = _
    by_cases isKey : field.isPrimaryKey = true
    · rw [if_pos isKey, Option.bind_some, if_pos isKey]
      rfl
    · rw [if_neg isKey, Option.bind_some, if_neg isKey]
      rfl

/-- Uses of the same shape come to plans of the same shape. -/
theorem Plans.sameShape {model : Model} {left right : Query} (same : SameShape model left right)
    {leftExchanges rightExchanges : List Exchange} {leftUse rightUse : Use} {place : Nat}
    {leftPlan rightPlan : Plan}
    (sameUse : leftUse.SameShape model leftExchanges rightExchanges rightUse)
    (leftPlans : Plans left model leftExchanges leftUse place leftPlan)
    (rightPlans : Plans right model rightExchanges rightUse place rightPlan) :
    leftPlan.SameShape model rightPlan := by
  have more {leftKeys rightKeys : List Filter}
      (keys : outlines model leftKeys = outlines model rightKeys) :
      outlines model (leftKeys ++ left.filters) = outlines model (rightKeys ++ right.filters) := by
    rw [outlines_append, outlines_append, keys, same.filters]
  cases leftPlans with
  | create record =>
    cases rightPlans with
    | create => exact ⟨sameUse.insertedFields, by
        rw [returning?, returning?, askedKey?, askedKey?, same.dialect]⟩
    | _ => exact sameUse.elim
  | readBack record known =>
    cases rightPlans with
    | readBack _ rightKnown =>
      obtain ⟨-, -, rfl⟩ := keyFilters?_eq_some.mp known
      obtain ⟨-, -, rfl⟩ := keyFilters?_eq_some.mp rightKnown
      exact ⟨outlines_keyFilter model _ _ _, rfl, rfl, rfl⟩
    | _ => exact sameUse.elim
  | findById key keyed =>
    cases rightPlans with
    | findById rightKey rightKeyed =>
      obtain rfl := Option.some.inj (keyed.symm.trans rightKeyed)
      refine ⟨?_, same.order, rfl, rfl⟩
      rw [outlines_append, outlines_append, same.filters]
      rfl
    | _ => exact sameUse.elim
  | first =>
    cases rightPlans with
    | first =>
      refine ⟨same.filters, ?_, rfl, same.offset⟩
      rw [firstOrder, firstOrder, same.order, same.dialect]
    | _ => exact sameUse.elim
  | find records =>
    cases rightPlans with
    | find => exact ⟨same.filters, same.order, same.limit, same.offset⟩
    | _ => exact sameUse.elim
  | scan =>
    cases rightPlans with
    | scan => exact ⟨same.filters, same.order, same.limit, same.offset⟩
    | _ => exact sameUse.elim
  | count =>
    cases rightPlans with
    | count => exact same.filters
    | _ => exact sameUse.elim
  | updates record changes pinned assigns =>
    cases rightPlans with
    | updates _ _ rightPinned rightAssigns =>
      obtain ⟨-, rfl⟩ := changeFilters_eq_ok.mp pinned
      obtain ⟨-, rfl⟩ := changeFilters_eq_ok.mp rightPinned
      refine ⟨?_, more (outlines_keyFilter model _ _ _)⟩
      rw [fields_of_assigns assigns, fields_of_assigns rightAssigns, sameUse]
    | _ => exact sameUse.elim
  | delete record pinned =>
    cases rightPlans with
    | delete _ rightPinned =>
      obtain ⟨-, -, rfl⟩ := deleteFilters_eq_ok.mp pinned
      obtain ⟨-, -, rfl⟩ := deleteFilters_eq_ok.mp rightPinned
      exact more (outlines_keyFilter model _ _ _)
    | _ => exact sameUse.elim
  | total page =>
    cases rightPlans with
    | total => exact same.filters
    | _ => exact sameUse.elim
  | page page =>
    cases rightPlans with
    | page =>
      obtain rfl : page = _ := sameUse
      exact ⟨same.filters, same.order, rfl, rfl⟩
    | _ => exact sameUse.elim

end Query

/-! ### Names in a statement -/

/-- A token is a key word, a numeral, a marker or a symbol, or the quoted name of the model's table
or of one of its columns. -/
def Sql.Token.IsKnown (words : List String) (model : Model) : Token → Prop
  | .name quoted => String.ofList quoted ∈ model.table :: model.columns
  | .marker _ => True
  | token => token.isBare (statementWords ++ words) = true

theorem permits_isKnown (words : List String) (model : Model) :
    Permits (Token.IsKnown words model) words model where
  bare token isBare := by
    cases token with
    | name name => cases isBare
    | marker text => trivial
    | _ => exact isBare
  table := by
    show String.ofList model.table.toList ∈ _
    rw [String.ofList_toList]
    exact List.mem_cons_self
  column column member := by
    show String.ofList column.toList ∈ _
    rw [String.ofList_toList]
    exact List.mem_cons_of_mem _ member

/-- Apart from an order that is taken over as it stands, all tokens of a text are known. -/
def Knows (quote : Char) (words : List String) (model : Model) (order : List String)
    (sql : String) : Prop :=
  ∃ opening stated closing, sql = opening ++ stated ++ closing ∧
    (stated = "" ∨ stated = ", ".intercalate order) ∧
    ∀ token ∈ tokens quote opening.toList ++ tokens quote closing.toList,
      token.IsKnown words model

section

variable {words : List String} {model : Model} {order : List String} {fragments : List Fragment}
  {start finish : Edge} (lawful : dialect.IsLawful words)

include lawful

/-- The tokens of fragments that compose are known. -/
theorem Composes.isKnown
    (composes : Composes dialect (Token.IsKnown words model) start fragments finish) :
    ∀ token ∈ tokens dialect.quoteCharacter (written dialect 0 fragments).toList,
      token.IsKnown words model := by
  refine composes.permitted lawful (fun token isBare => ?_) (fun _ => trivial) 0
  exact (permits_isKnown words model).bare token
    (Token.isBare_of_subset (List.subset_append_right _ _) isBare)

/-- The text of fragments that compose is known throughout. -/
theorem Composes.knows
    (composes : Composes dialect (Token.IsKnown words model) start fragments finish) :
    Knows dialect.quoteCharacter words model order (written dialect 0 fragments) := by
  refine ⟨_, "", "", by rw [String.append_empty, String.append_empty], .inl rfl, ?_⟩
  intro token member
  rcases List.mem_append.mp member with early | late
  · exact composes.isKnown lawful token early
  · cases late

/-- The text of fragments that compose is known before and after an order that follows them. -/
theorem Composes.knows_ordered {closing : String}
    (composes : Composes dialect (Token.IsKnown words model) start fragments .bound)
    (closes : Passage dialect.quoteCharacter (Token.IsKnown words model) .bound closing finish) :
    Knows dialect.quoteCharacter words model order (written dialect 0
      (fragments ++ [.text (" ORDER BY " ++ ", ".intercalate order)] ++ [.text closing])) := by
  have opens : Passage dialect.quoteCharacter (Token.IsKnown words model) .bound " ORDER BY "
      .free := (permits_isKnown words model).phrase lawful.quoteCharacter (by decide)
  refine ⟨written dialect 0 (fragments ++ [.text " ORDER BY "]), ", ".intercalate order, closing,
    ?_, .inr rfl, ?_⟩
  · simp only [written_append_text, String.append_assoc]
  · intro token member
    rcases List.mem_append.mp member with early | late
    · exact (composes.append (.of_passage opens)).isKnown lawful token early
    · exact closes.permitted token late

/-- The text of a selection is known before and after the order that is stated for it. -/
theorem knows_of_select {filters : List Filter} {limit offset : Option Nat} {statement : Statement}
    (built : selectStatement model dialect filters order limit offset = .ok statement) :
    Knows dialect.quoteCharacter words model order statement.sql := by
  obtain ⟨found, carried, rfl⟩ := Outcome.map_eq_ok.mp built
  have permitted := permits_isKnown words model
  have selection : Composes dialect (Token.IsKnown words model) .free
      (.text ("SELECT " ++ ", ".intercalate (model.fields.map dialect.selectColumn) ++ " FROM " ++
        dialect.quote model.table) :: whereFragments dialect found) .bound :=
    .text (permitted.selection lawful)
      (permitted.whereFragments lawful.quoteCharacter (isCarried_of_conditions carried))
  have rows := permitted.limitOffset lawful limit offset
  rw [ofFragments_eq, orderFragments]
  split
  · rw [List.append_nil]
    exact (selection.append (.of_passage rows)).knows lawful
  · exact selection.knows_ordered lawful rows

end

/-! ### What a text depends on -/

/-- Data never gets into a text. Uses of the same shape send texts that are the same, with arguments
of the same kinds, whatever values they are given and whatever databases and hooks answer. Under
every lawful dialect, those of the library among them, a text consists of key words, numerals,
markers and symbols and of the names of the table and its columns, but for an order that the caller
states. -/
theorem Query.text_independent :
    (∀ (model : Model) (left right : Query), SameShape model left right →
      ∀ (leftUse rightUse : Use) {LeftState RightState : Type}
        (leftEnvironment : Environment LeftState) (leftState : LeftState)
        (rightEnvironment : Environment RightState) (rightState : RightState),
        leftUse.SameShape model (leftUse.exchanges leftEnvironment leftState left)
          (rightUse.exchanges rightEnvironment rightState right) rightUse →
        ∀ (place : Nat) (leftSent rightSent : Statement),
          (statements (leftUse.exchanges leftEnvironment leftState left))[place]? = some leftSent →
          (statements (rightUse.exchanges rightEnvironment rightState right))[place]? =
            some rightSent →
          leftSent.Alike rightSent) ∧
    (∀ entry ∈ DialectRegistry.standard.entries, entry.2.IsLawful Dialect.productWords) ∧
    ∀ (query : Query) (model : Model) (words : List String), query.model = .ok model →
      query.dialect.IsLawful words →
      ∀ (use : Use) {State : Type} (environment : Environment State) (state : State),
        ∀ statement ∈ statements (use.exchanges environment state query),
          Knows query.dialect.quoteCharacter words model query.order statement.sql := by
  refine ⟨?_, DialectRegistry.isLawful_standard, ?_⟩
  · intro model left right same leftUse rightUse LeftState RightState leftEnvironment leftState
      rightEnvironment rightState sameUse place leftSent rightSent sentLeft sentRight
    obtain ⟨leftModel, leftPlan, leftPrepared, leftPlans, leftBuilt⟩ :=
      leftUse.plans leftEnvironment leftState sentLeft
    obtain ⟨rightModel, rightPlan, rightPrepared, rightPlans, rightBuilt⟩ :=
      rightUse.plans rightEnvironment rightState sentRight
    obtain rfl : model = leftModel :=
      Except.ok.inj (same.leftModel.symm.trans (model_of_prepare leftPrepared))
    obtain rfl : model = rightModel :=
      Except.ok.inj (same.rightModel.symm.trans (model_of_prepare rightPrepared))
    rw [← same.dialect] at rightBuilt
    exact Plan.alike (leftPlans.sameShape same sameUse rightPlans) leftBuilt rightBuilt
  · intro query model words found lawful use State environment state statement member
    obtain ⟨place, sent⟩ := List.mem_iff_getElem?.mp member
    obtain ⟨other, plan, prepared, plans, built⟩ := use.plans environment state sent
    obtain rfl : model = other := Except.ok.inj (found.symm.trans (model_of_prepare prepared))
    have permitted := permits_isKnown words model
    rcases plans.fits_or_ordered lawful permitted with fits | ⟨filters, limit, offset, rfl⟩
    · obtain ⟨fragments, rfl, composes⟩ := plan.composes lawful permitted fits built
      rw [ofFragments_eq]
      exact composes.knows lawful
    · exact knows_of_select lawful built

/-- The query on the free seats that were last held for a guest. -/
def Query.seatsHeldFor (guest : String) : Query :=
  freeSeats.filter (.compare .equal "guest" (.text guest))

/-- Whoever a seat is held for, even a guest with quotes in the name, its deletion reads the
same. -/
theorem Query.text_independent_seatsHeldFor :
    ∃ model, SameShape model (seatsHeldFor "Ada") (seatsHeldFor "' OR ''='") ∧
      ∃ leftSent rightSent,
        statements ((Use.delete [.int 3, .int 7, .null]).exchanges .empty ()
          (seatsHeldFor "Ada")) = [leftSent] ∧
        statements ((Use.delete [.int 8, .int 1, .null]).exchanges .empty ()
          (seatsHeldFor "' OR ''='")) = [rightSent] ∧
        leftSent.Alike rightSent ∧
        Knows (seatsHeldFor "Ada").dialect.quoteCharacter Dialect.productWords model []
          leftSent.sql := by
  have resolves : freeSeats.model.toOption.isSome = true := by decide +kernel
  obtain ⟨model, resolved⟩ := Option.isSome_iff_exists.mp resolves
  have found := Outcome.toOption_eq_some.mp resolved
  have same : SameShape model (seatsHeldFor "Ada") (seatsHeldFor "' OR ''='") :=
    ⟨rfl, found, found, rfl, rfl, rfl, rfl⟩
  have leftOne : (statements ((Use.delete [.int 3, .int 7, .null]).exchanges .empty ()
      (seatsHeldFor "Ada"))).length = 1 := by decide +kernel
  have rightOne : (statements ((Use.delete [.int 8, .int 1, .null]).exchanges .empty ()
      (seatsHeldFor "' OR ''='"))).length = 1 := by decide +kernel
  obtain ⟨leftSent, left⟩ := List.length_eq_one_iff.mp leftOne
  obtain ⟨rightSent, right⟩ := List.length_eq_one_iff.mp rightOne
  refine ⟨model, same, leftSent, rightSent, left, right, ?_, ?_⟩
  · exact text_independent.1 model _ _ same (.delete [.int 3, .int 7, .null])
      (.delete [.int 8, .int 1, .null]) .empty () .empty () trivial 0 leftSent rightSent
      (by rw [left]; rfl) (by rw [right]; rfl)
  · exact text_independent.2.2 (seatsHeldFor "Ada") model _ found Dialect.isLawful_postgres
      (.delete [.int 3, .int 7, .null]) .empty () leftSent
      (by rw [left]; exact List.mem_singleton.mpr rfl)

end RecordMapper
