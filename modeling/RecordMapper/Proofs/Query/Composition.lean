/-
This file proves that every statement of the library composes: it is made of passages and arguments
whose edges fit, and outside of arguments it consists of a few words, numerals and symbols, of the
quoted names of one table and its columns, and of what a caller writes as the order of rows. This is
said for any sort of token that takes in those words and names, so that it serves to show what
occurs in a statement as well as what does not.
-/

import RecordMapper.Proofs.Filter.Carrying
import RecordMapper.Proofs.Query.Keys
import RecordMapper.Proofs.Query.Plans
import RecordMapper.Proofs.Statement.Fragments

namespace RecordMapper

open Sql

/-! ### Permitted tokens -/

/-- The words of which statements are made, beside those of the dialects. -/
def statementWords : List String :=
  ["AND", "ASC", "BY", "COUNT", "DELETE", "FROM", "IN", "INSERT", "INTO", "IS", "LIKE", "LIMIT",
    "NOT", "NULL", "OFFSET", "ORDER", "RETURNING", "SELECT", "SET", "UPDATE", "VALUES", "WHERE"]

/-- A sort of token takes in all words of statements and the names of a model. -/
structure Permits (permits : Token → Prop) (words : List String) (model : Model) : Prop where
  bare (token : Token) : token.isBare (statementWords ++ words) = true → permits token
  table : permits (.name model.table.toList)
  column : ∀ column ∈ model.columns, permits (.name column.toList)

theorem Sql.Token.isBare_of_subset {words more : List String} (subset : words ⊆ more)
    {token : Token} (isBare : token.isBare words = true) : token.isBare more = true := by
  cases token with
  | word text =>
    simp only [Token.isBare, Bool.or_eq_true, List.contains_iff_mem] at isBare ⊢
    exact isBare.imp_left fun member => subset member
  | symbol character =>
    simp only [Token.isBare, Bool.or_eq_true, List.contains_iff_mem] at isBare ⊢
    exact isBare.imp_left fun member => subset member
  | _ => exact isBare

/-- What a value comes to under a kind is an argument of that kind. -/
theorem ComesTo.isTyped {kind : Kind} {value operand : Value} (comes : ComesTo kind value operand) :
    IsTyped (operand, kind) := by
  rcases Value.coerce_eq_ok comes with ⟨-, absent⟩ | ⟨-, -, named⟩
  · exact .inl absent
  · exact .inr named

/-! ### Passages of statements -/

section

variable {dialect : Dialect} {words : List String} {permits : Token → Prop} {model : Model}
  (plainQuote : isPlain dialect.quoteCharacter = false) (permitted : Permits permits words model)

include plainQuote permitted

/-- A text of the library's own is a passage. -/
theorem Permits.phrase {start finish : Edge} {text : String}
    (phrase : isPhrase statementWords start text finish = true) :
    Passage dialect.quoteCharacter permits start text finish :=
  .of_isPhrase plainQuote (fun token isBare => permitted.bare token
    (Token.isBare_of_subset (List.subset_append_left _ _) isBare)) phrase

/-- A text of the dialect's is a passage. -/
theorem Permits.dialectPhrase {start finish : Edge} {text : String}
    (phrase : isPhrase words start text finish = true) :
    Passage dialect.quoteCharacter permits start text finish :=
  .of_isPhrase plainQuote (fun token isBare => permitted.bare token
    (Token.isBare_of_subset (List.subset_append_right _ _) isBare)) phrase

omit plainQuote in
/-- The quoted column of a field of the model. -/
theorem Permits.quotedColumn {field : Field} (member : field ∈ model.fields) :
    Passage dialect.quoteCharacter permits .free (dialect.quote field.column) .bound :=
  .of_quote (permitted.column _ (List.mem_map.mpr ⟨field, member, rfl⟩))

/-- A condition on a field of the model composes. -/
theorem Permits.condition {condition : Condition} (carried : IsCarried model condition) :
    Composes dialect permits .free (condition.fragments dialect) .bound := by
  obtain ⟨field, member, filter, carries⟩ := carried
  have column : Passage dialect.quoteCharacter permits .free (dialect.quote field.column) .bound :=
    permitted.quotedColumn member
  cases carries with
  | @compare comparison key value operand _ comes =>
    have blank : Passage dialect.quoteCharacter permits .bound " " .free :=
      permitted.phrase plainQuote (by decide)
    have symbol : Passage dialect.quoteCharacter permits .free comparison.symbol .bound := by
      cases comparison <;> exact permitted.phrase plainQuote (by decide)
    exact .text (((column.append blank).append symbol).append blank) (.argument comes.isTyped .nil)
  | like comes =>
    exact .text (column.append (permitted.phrase plainQuote (by decide)))
      (.argument comes.isTyped .nil)
  | @constant negated =>
    cases negated <;> exact .of_passage (permitted.phrase plainQuote (by decide))
  | @among negated key values operands _ come =>
    have opens : Passage dialect.quoteCharacter permits .bound
        (if negated then " NOT IN (" else " IN (") .free := by
      cases negated <;> exact permitted.phrase plainQuote (by decide)
    have closes : Passage dialect.quoteCharacter permits .bound ")" .bound :=
      permitted.phrase plainQuote (by decide)
    have listed : Composes dialect permits .free (separated ", "
        (operands.map fun operand => [.argument (operand, field.kind)])) .bound := by
      refine .separated (permitted.phrase plainQuote (by decide)) fun item itemMember => ?_
      obtain ⟨operand, operandMember, rfl⟩ := List.mem_map.mp itemMember
      obtain ⟨value, -, comes⟩ := Outcome.exists_of_forall₂ come operandMember
      exact .argument comes.isTyped .nil
    exact .append (.text (column.append opens) listed) (.of_passage closes)
  | @absent negated =>
    have test : Passage dialect.quoteCharacter permits .bound
        (if negated then " IS NOT NULL" else " IS NULL") .bound := by
      cases negated <;> exact permitted.phrase plainQuote (by decide)
    exact .of_passage (column.append test)

/-- The clause of conditions on fields of the model composes. -/
theorem Permits.whereFragments {found : List Condition}
    (carried : ∀ condition ∈ found, IsCarried model condition) :
    Composes dialect permits .bound (whereFragments dialect found) .bound := by
  unfold RecordMapper.whereFragments
  split
  · exact .nil
  · refine .text (permitted.phrase plainQuote (by decide))
      (.separated (permitted.phrase plainQuote (by decide)) fun item member => ?_)
    obtain ⟨condition, conditionMember, rfl⟩ := List.mem_map.mp member
    exact permitted.condition plainQuote (carried condition conditionMember)

end

section

variable {dialect : Dialect} {words : List String} {permits : Token → Prop} {model : Model}
  (lawful : dialect.IsLawful words) (permitted : Permits permits words model)

include lawful permitted

/-! ### Clauses -/

/-- The order of rows, if each of its terms is a passage. -/
theorem Permits.orderFragments {order : List String}
    (terms : ∀ term ∈ order, Passage dialect.quoteCharacter permits .free term .bound) :
    Composes dialect permits .bound (orderFragments order) .bound := by
  unfold RecordMapper.orderFragments
  split
  · exact .nil
  · have opens : Passage dialect.quoteCharacter permits .bound " ORDER BY " .free :=
      permitted.phrase lawful.quoteCharacter (by decide)
    have separates : Passage dialect.quoteCharacter permits .bound ", " .free :=
      permitted.phrase lawful.quoteCharacter (by decide)
    exact .of_passage (opens.append (.intercalate separates terms))

theorem Permits.limitOffset (limit offset : Option Nat) :
    Passage dialect.quoteCharacter permits .bound (dialect.limitOffset limit offset) .bound := by
  have natural (value : Nat) : Passage dialect.quoteCharacter permits .free
      (Text.naturalText value) .bound := .of_naturalText lawful.quoteCharacter permitted.bare value
  have limits : Passage dialect.quoteCharacter permits .bound " LIMIT " .free :=
    permitted.phrase lawful.quoteCharacter (by decide)
  have skips : Passage dialect.quoteCharacter permits .bound " OFFSET " .free :=
    permitted.phrase lawful.quoteCharacter (by decide)
  have unbounded : Passage dialect.quoteCharacter permits .free dialect.unboundedLimit .bound :=
    permitted.dialectPhrase lawful.quoteCharacter lawful.unboundedLimit
  cases limit with
  | none =>
    cases offset with
    | none =>
      have nothing : Passage dialect.quoteCharacter permits .bound "" .bound :=
        permitted.phrase lawful.quoteCharacter (by decide)
      exact nothing
    | some offset => exact ((limits.append unbounded).append skips).append (natural offset)
  | some limit =>
    cases offset with
    | none => exact limits.append (natural limit)
    | some offset => exact ((limits.append (natural limit)).append skips).append (natural offset)

theorem Permits.selectColumn {field : Field} (member : field ∈ model.fields) :
    Passage dialect.quoteCharacter permits .free (dialect.selectColumn field) .bound := by
  obtain ⟨opening, closing, opens, closes, equal⟩ := lawful.selectExpression field
  have before := permitted.dialectPhrase lawful.quoteCharacter opens
  have after := permitted.dialectPhrase lawful.quoteCharacter closes
  rw [Dialect.selectColumn, equal]
  exact (before.append (permitted.quotedColumn member)).append after

/-- What a selection begins with: the columns and the table. -/
theorem Permits.selection : Passage dialect.quoteCharacter permits .free
    ("SELECT " ++ ", ".intercalate (model.fields.map dialect.selectColumn) ++ " FROM " ++
      dialect.quote model.table) .bound := by
  have selects : Passage dialect.quoteCharacter permits .free "SELECT " .free :=
    permitted.phrase lawful.quoteCharacter (by decide)
  have columns : Passage dialect.quoteCharacter permits .free
      (", ".intercalate (model.fields.map dialect.selectColumn)) .bound := by
    refine .intercalate (permitted.phrase lawful.quoteCharacter (by decide)) fun item member => ?_
    obtain ⟨field, fieldMember, rfl⟩ := List.mem_map.mp member
    exact permitted.selectColumn lawful fieldMember
  have source : Passage dialect.quoteCharacter permits .bound " FROM " .free :=
    permitted.phrase lawful.quoteCharacter (by decide)
  exact ((selects.append columns).append source).append (.of_quote permitted.table)

/-- The insertion of fields and of as many typed arguments. -/
theorem Permits.insertFragments {fields : List Field} {arguments : List Argument}
    (known : ∀ field ∈ fields, field ∈ model.fields)
    (typed : ∀ argument ∈ arguments, IsTyped argument) :
    Composes dialect permits .free (insertFragments model dialect fields arguments) .bound := by
  have inserts : Passage dialect.quoteCharacter permits .free
      ("INSERT INTO " ++ dialect.quote model.table) .bound :=
    .append (permitted.phrase lawful.quoteCharacter (by decide)) (.of_quote permitted.table)
  unfold RecordMapper.insertFragments
  split
  · exact .of_passage
      (inserts.append (permitted.dialectPhrase lawful.quoteCharacter lawful.emptyRow))
  · have opens : Passage dialect.quoteCharacter permits .bound " (" .free :=
      permitted.phrase lawful.quoteCharacter (by decide)
    have columns : Passage dialect.quoteCharacter permits .free
        (dialect.quoteAll (fields.map Field.column)) .bound := by
      refine .intercalate (permitted.phrase lawful.quoteCharacter (by decide)) fun item member => ?_
      obtain ⟨column, columnMember, rfl⟩ := List.mem_map.mp member
      obtain ⟨field, fieldMember, rfl⟩ := List.mem_map.mp columnMember
      exact permitted.quotedColumn (known field fieldMember)
    have values : Passage dialect.quoteCharacter permits .bound ") VALUES (" .free :=
      permitted.phrase lawful.quoteCharacter (by decide)
    have closes : Passage dialect.quoteCharacter permits .bound ")" .bound :=
      permitted.phrase lawful.quoteCharacter (by decide)
    have listed : Composes dialect permits .free
        (separated ", " (arguments.map fun argument => [.argument argument])) .bound := by
      refine .separated (permitted.phrase lawful.quoteCharacter (by decide)) fun item member => ?_
      obtain ⟨argument, argumentMember, rfl⟩ := List.mem_map.mp member
      exact .argument (typed argument argumentMember) .nil
    exact .append (.text (((inserts.append opens).append columns).append values) listed)
      (.of_passage closes)

/-- The assignments of typed values to fields. -/
theorem Permits.settings {assigned : List Assignment}
    (known : ∀ assignment ∈ assigned, assignment.1 ∈ model.fields ∧
      IsTyped (assignment.2, assignment.1.kind)) :
    Composes dialect permits .free (separated ", " (assigned.map fun (field, value) =>
      [.text (dialect.quote field.column ++ " = "), .argument (value, field.kind)])) .bound := by
  refine .separated (permitted.phrase lawful.quoteCharacter (by decide)) fun item member => ?_
  obtain ⟨⟨field, value⟩, assignmentMember, rfl⟩ := List.mem_map.mp member
  obtain ⟨fieldMember, typed⟩ := known _ assignmentMember
  exact .text ((permitted.quotedColumn fieldMember).append
    (permitted.phrase lawful.quoteCharacter (by decide))) (.argument typed .nil)

end

/-! ### Plans -/

/-- What a plan takes over from elsewhere fits into its statement: the terms of an order, what is
asked back for, and the assigned fields. -/
def Plan.Fits (dialect : Dialect) (permits : Token → Prop) (model : Model) : Plan → Prop
  | .insert _ returning =>
    ∀ clause ∈ returning, Passage dialect.quoteCharacter permits .bound clause .bound
  | .select _ order _ _ =>
    ∀ term ∈ order, Passage dialect.quoteCharacter permits .free term .bound
  | .update assigned _ => ∀ assignment ∈ assigned, assignment.1 ∈ model.fields ∧
      IsTyped (assignment.2, assignment.1.kind)
  | .count _ | .delete _ => True

/-- The statement of a plan composes, if what the plan takes over fits. -/
theorem Plan.composes {dialect : Dialect} {words : List String} {permits : Token → Prop}
    {model : Model} (lawful : dialect.IsLawful words) (permitted : Permits permits words model)
    {plan : Plan} {statement : Statement} (fits : plan.Fits dialect permits model)
    (built : plan.statement model dialect = .ok statement) :
    ∃ fragments, statement = Statement.ofFragments dialect fragments ∧
      Composes dialect permits .free fragments .bound := by
  have table : Passage dialect.quoteCharacter permits .free (dialect.quote model.table) .bound :=
    .of_quote permitted.table
  cases plan with
  | insert record returning =>
    obtain ⟨arguments, found, rfl⟩ := Outcome.map_eq_ok.mp built
    refine ⟨_, rfl, .append (permitted.insertFragments lawful ?_ ?_) ?_⟩
    · exact fun field member => List.mem_of_mem_filter member
    · refine Outcome.forall_of_mapM (fun field argument made => ?_) found
      obtain ⟨operand, comes, rfl⟩ := Outcome.map_eq_ok.mp made
      exact (coerceOperand_eq_ok.mp comes).isTyped
    · cases returning with
      | none => exact .nil
      | some clause => exact .of_passage (fits clause rfl)
  | select filters order limit offset =>
    obtain ⟨found, carried, rfl⟩ := Outcome.map_eq_ok.mp built
    have clause := permitted.whereFragments lawful.quoteCharacter (isCarried_of_conditions carried)
    have rows := permitted.limitOffset lawful limit offset
    exact ⟨_, rfl, .append (.append (.text (permitted.selection lawful) clause)
      (permitted.orderFragments lawful fits)) (.of_passage rows)⟩
  | count filters =>
    obtain ⟨found, carried, rfl⟩ := Outcome.map_eq_ok.mp built
    have counts : Passage dialect.quoteCharacter permits .free "SELECT COUNT(*) FROM " .free :=
      permitted.phrase lawful.quoteCharacter (by decide)
    exact ⟨_, rfl, .text (counts.append table)
      (permitted.whereFragments lawful.quoteCharacter (isCarried_of_conditions carried))⟩
  | update assigned filters =>
    obtain ⟨found, carried, rfl⟩ := Outcome.map_eq_ok.mp built
    have changes : Passage dialect.quoteCharacter permits .free "UPDATE " .free :=
      permitted.phrase lawful.quoteCharacter (by decide)
    have sets : Passage dialect.quoteCharacter permits .bound " SET " .free :=
      permitted.phrase lawful.quoteCharacter (by decide)
    exact ⟨_, rfl, .append (.text ((changes.append table).append sets)
      (permitted.settings lawful fits))
      (permitted.whereFragments lawful.quoteCharacter (isCarried_of_conditions carried))⟩
  | delete filters =>
    obtain ⟨found, carried, rfl⟩ := Outcome.map_eq_ok.mp built
    have deletes : Passage dialect.quoteCharacter permits .free "DELETE FROM " .free :=
      permitted.phrase lawful.quoteCharacter (by decide)
    exact ⟨_, rfl, .text (deletes.append table)
      (permitted.whereFragments lawful.quoteCharacter (isCarried_of_conditions carried))⟩

namespace Query

/-- The clause that asks back for a generated key names the column of the key. -/
theorem exists_key_of_returning? {query : Query} {model : Model} {clause : String}
    (asked : query.returning? model = some clause) :
    ∃ key ∈ model.fields, clause = " RETURNING " ++ query.dialect.quote key.column := by
  obtain ⟨key, keys, -, returns⟩ := returning?_eq_some.mp asked
  have member : key ∈ model.primaryKeys := keys ▸ List.mem_singleton_self key
  refine ⟨key, Model.mem_of_primaryKeys member, ?_⟩
  unfold Dialect.returning at returns
  split at returns
  · exact (Option.some.inj returns).symm
  · cases returns

/-- A field that changes can set is a field of the model, and what it is assigned is typed. -/
theorem known_of_assigns {model : Model} {entries : List (String × Value)}
    {assigned : List Assignment}
    (assigns : List.Forall₂ Assigns (settable model entries) assigned) :
    ∀ assignment ∈ assigned,
      assignment.1 ∈ model.fields ∧ IsTyped (assignment.2, assignment.1.kind) := by
  intro assignment member
  obtain ⟨⟨field, value⟩, given, same, comes⟩ := Outcome.exists_of_forall₂ assigns member
  rw [same]
  exact ⟨(mem_of_settable given).1, (coerceOperand_eq_ok.mp comes).isTyped⟩

/-- What a plan of a query takes over fits, unless it is the order that the query states. -/
theorem Plans.fits_or_ordered {query : Query} {words : List String} {permits : Token → Prop}
    {model : Model} {exchanges : List Exchange} {use : Use} {place : Nat} {plan : Plan}
    (lawful : query.dialect.IsLawful words) (permitted : Permits permits words model)
    (plans : Plans query model exchanges use place plan) :
    plan.Fits query.dialect permits model ∨
      ∃ filters limit offset, plan = .select filters query.order limit offset := by
  cases plans with
  | create record =>
    refine .inl fun clause asked => ?_
    obtain ⟨key, member, rfl⟩ := exists_key_of_returning? asked
    have returns : Passage query.dialect.quoteCharacter permits .bound " RETURNING " .free :=
      permitted.phrase lawful.quoteCharacter (by decide)
    exact returns.append (permitted.quotedColumn member)
  | readBack record known => exact .inl fun _ member => (by cases member)
  | findById key keyed => exact .inr ⟨_, _, _, rfl⟩
  | first =>
    by_cases unstated : query.order.isEmpty = true
    · refine .inl ?_
      show ∀ term ∈ query.firstOrder model, _
      rw [firstOrder, if_pos unstated]
      intro term member
      obtain ⟨key, keyMember, rfl⟩ := List.mem_map.mp member
      exact .append (permitted.quotedColumn (Model.mem_of_primaryKeys keyMember))
        (permitted.phrase lawful.quoteCharacter (by decide))
    · rw [firstOrder, if_neg unstated]
      exact .inr ⟨_, _, _, rfl⟩
  | find records => exact .inr ⟨_, _, _, rfl⟩
  | scan => exact .inr ⟨_, _, _, rfl⟩
  | count => exact .inl trivial
  | updates record changes pinned assigns => exact .inl (known_of_assigns assigns)
  | delete record pinned => exact .inl trivial
  | total page => exact .inl trivial
  | page page => exact .inr ⟨_, _, _, rfl⟩

end Query

end RecordMapper
