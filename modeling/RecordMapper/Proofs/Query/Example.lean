/-
This file proves that an example asks for what is set in it. For every mapped field of the example
whose value is not its default there is one equality, in the order of the fields, on the column of
that field and with its value; fields that are left out take part in nothing, wherever they stand,
and it does not matter which other field has the column for a name. Such filters are always carried
over: what a type holds is present where it is set, and it has the kind of its column already.
-/

import RecordMapper.Proofs.Filter.Absence
import RecordMapper.Proofs.Query.SameRows
import RecordMapper.Proofs.Record.RoundTrip
import RecordMapper.Proofs.Schema.Lawful

namespace RecordMapper

open Schema

/-! ### What is set in a record -/

/-- The mapped fields of a record type at which a record has a value that is not its default, with
those values. -/
def RecordType.setFields (type : RecordType) (record : Record) : List (RecordField × Value) :=
  (type.fields.zip record).filter fun (field, value) =>
    !(FieldTag.parse field.tag).isIgnored && !value.isDefault

/-- A value is set at a field of the type if the field is mapped and has the value, and this is not
its default. -/
theorem RecordType.mem_setFields {type : RecordType} {record : Record}
    {given : RecordField × Value} :
    given ∈ type.setFields record ↔ given ∈ type.fields.zip record ∧
      (FieldTag.parse given.1.tag).isIgnored = false ∧ given.2.isDefault = false := by
  rw [setFields, List.mem_filter, Bool.and_eq_true, Bool.not_eq_true', Bool.not_eq_true']

/-- The filter for the rows that agree with a record in the column of a field. -/
def Schema.Setting.agreement (setting : Setting) (given : RecordField × Value) : Filter :=
  .compare .equal (setting.columnOf given.1.descriptor) given.2

/-- What that filter comes to: the column is tested for the very value. -/
def Schema.Setting.agreementTest (setting : Setting) (given : RecordField × Value) : Condition :=
  .compare .equal (setting.columnOf given.1.descriptor) given.2 given.1.descriptor.kind

/-- The argument that the test takes. -/
def agreementArgument (given : RecordField × Value) : Argument :=
  (given.2, given.1.descriptor.kind)

variable {naming : NamingStrategy} {type : RecordType} {model : Model} {record : Record}

/-! ### The filters of an example -/

/-- Fields and values side by side are the fields with the values at their places. -/
theorem zip_drop_eq_filterMap (start : Nat) (fields : List RecordField) (record : Record) :
    fields.zip (record.drop start) =
      (fields.zipIdx start).filterMap fun (field, place) =>
        record[place]?.map fun value => (field, value) := by
  induction fields generalizing start with
  | nil => rfl
  | cons field rest inductionHypothesis =>
    have later := inductionHypothesis (start + 1)
    rw [List.zipIdx_cons]
    cases found : record[start]? with
    | none =>
      have beyond : record.length ≤ start := List.getElem?_eq_none_iff.mp found
      rw [List.drop_of_length_le (by omega), List.zip_nil_right] at later
      rw [List.drop_of_length_le beyond, List.zip_nil_right, later]
      exact (List.filterMap_cons_none (by simp [found])).symm
    | some value =>
      obtain ⟨inside, rfl⟩ := List.getElem?_eq_some_iff.mp found
      rw [List.drop_eq_getElem_cons inside, List.zip_cons_cons, later]
      exact (List.filterMap_cons_some (by simp [found])).symm

/-- The fields of a model have the columns and the places of the mapped fields of the record type
that resolves to it. -/
theorem Schema.map_column_position_of_resolve
    (resolved : (resolve naming type.descriptor).2 = .ok model) :
    model.fields.map (fun field => (field.column, field.position)) =
      (mappedFrom 0 type.descriptor.fields).map fun (described, place) =>
        ((settingOf naming type.descriptor).columnOf described, place) := by
  obtain ⟨fields, marked, -, maps⟩ := fields_of_resolve resolved
  rw [marked, ← List.forall₂_eq_eq_eq, List.forall₂_map_left_iff, List.forall₂_map_right_iff]
  refine (maps_markSoleKey maps).flip.imp ?_
  rintro - ⟨described, place⟩ ⟨size, precision, scale, isInlineKey, rfl⟩
  rfl

/-- The filters of an example are those for the fields that are set in it. -/
theorem exampleFilters_of_resolve
    (resolved : (resolve naming type.descriptor).2 = .ok model) (record : Record) :
    Query.exampleFilters model record =
      (type.setFields record).map (settingOf naming type.descriptor).agreement := by
  have through : Query.exampleFilters model record =
      (model.fields.map fun field => (field.column, field.position)).filterMap
        fun each => (record[each.2]?.filter (!·.isDefault)).map
          (.compare .equal each.1 ·) := by
    rw [Query.exampleFilters, List.filterMap_map]
    refine List.filterMap_congr fun field _ => ?_
    cases found : record[field.position]? with
    | none => simp [found]
    | some value => cases unset : value.isDefault <;> simp [found, unset, Option.filter]
  have sideBySide := zip_drop_eq_filterMap 0 type.fields record
  rw [List.drop_zero] at sideBySide
  rw [through, map_column_position_of_resolve resolved, RecordType.setFields, sideBySide,
    mappedFrom, RecordType.descriptor, List.zipIdx_map]
  simp only [List.filterMap_map, List.filterMap_filter, List.filter_filterMap, List.map_filterMap]
  refine List.filterMap_congr fun each _ => ?_
  obtain ⟨field, place⟩ := each
  cases ignored : (FieldTag.parse field.tag).isIgnored <;> cases found : record[place]? with
  | none => simp [field.descriptor_tag, ignored, found]
  | some value =>
    cases unset : value.isDefault <;>
      simp [field.descriptor_tag, ignored, found, unset, Option.filter, Setting.agreement]

/-! ### The conditions of an example -/

/-- Under the column of a mapped field a model finds a field of the kind of that field. -/
theorem Schema.exists_resolve?_columnOf
    (resolved : (resolve naming type.descriptor).2 = .ok model) {declared : RecordField}
    (member : declared ∈ type.fields)
    (isMapped : (FieldTag.parse declared.tag).isIgnored = false) :
    ∃ field, model.resolve? ((settingOf naming type.descriptor).columnOf declared.descriptor) =
        some field ∧
      field.column = (settingOf naming type.descriptor).columnOf declared.descriptor ∧
      field.kind = declared.descriptor.kind := by
  obtain ⟨fields, marked, -, maps⟩ := fields_of_resolve resolved
  obtain ⟨place, found⟩ := List.mem_iff_getElem?.mp member
  obtain ⟨field, fieldMember, mapped⟩ :=
    Outcome.exists_of_forall₂ (maps_markSoleKey maps).flip (type.mem_mappedFrom found isMapped)
  rw [← marked] at fieldMember
  have column :
      field.column = (settingOf naming type.descriptor).columnOf declared.descriptor := by
    obtain ⟨size, precision, scale, isInlineKey, rfl⟩ := mapped
    rfl
  have kind : field.kind = declared.descriptor.kind := by
    obtain ⟨size, precision, scale, isInlineKey, rfl⟩ := mapped
    rfl
  have accepted : model.IsAccepted := ⟨naming, _, resolved⟩
  exact ⟨field, column ▸ accepted.resolve?_column fieldMember, column, kind⟩

/-- What a type holds for a field that is set has the kind of the field already. -/
theorem RecordType.Holds.coerce_of_setFields (holds : type.Holds record) (types : type.HasTypes)
    {given : RecordField × Value} (set : given ∈ type.setFields record) :
    given.2.coerce given.1.descriptor.kind = .ok given.2 := by
  obtain ⟨paired, isMapped, -⟩ := RecordType.mem_setFields.mp set
  have held : ∀ columnType, given.1.storage = .typed columnType → columnType.holds given.2 = true :=
    List.forall₂_zip holds paired
  rcases types given.1 (List.of_mem_zip paired).1 with ⟨lone, -⟩ | ⟨-, columnType, typed⟩
  · rw [FieldTag.isIgnored_of_isLoneMark lone] at isMapped
    cases isMapped
  · have kind : given.1.descriptor.kind = columnType.kind := by
      simp only [RecordField.descriptor, typed]
    rw [kind]
    exact ColumnType.coerce_of_holds (held columnType typed)

/-- The filters of an example are carried over to tests for the very values. -/
theorem conditions_of_setFields (resolved : (resolve naming type.descriptor).2 = .ok model)
    (types : type.HasTypes) (holds : type.Holds record) :
    conditions model ((type.setFields record).map (settingOf naming type.descriptor).agreement) =
      .ok ((type.setFields record).map (settingOf naming type.descriptor).agreementTest) := by
  rw [conditions, Outcome.mapM_eq_ok, List.forall₂_map_left_iff, List.forall₂_map_right_iff,
    List.forall₂_same]
  intro given set
  obtain ⟨paired, isMapped, isSet⟩ := RecordType.mem_setFields.mp set
  obtain ⟨field, found, column, kind⟩ :=
    exists_resolve?_columnOf resolved (List.of_mem_zip paired).1 isMapped
  have present : given.2 ≠ .null := by
    intro absent
    rw [absent] at isSet
    cases isSet
  refine Filter.condition_eq_ok.mpr ⟨field, found, ?_⟩
  rw [Setting.agreementTest, ← column, ← kind]
  refine .compare present ?_
  rw [ComesTo, kind]
  exact holds.coerce_of_setFields types set

theorem supplied_agreementTests (dialect : Dialect) (setting : Setting)
    (given : List (RecordField × Value)) :
    supplied (whereFragments dialect (given.map setting.agreementTest)) =
      given.map agreementArgument := by
  rw [supplied_whereFragments, List.flatMap_map, List.map_eq_flatMap]
  rfl

/-! ### Queries by example -/

namespace Query

/-- An example adds to a query one equality for each mapped field that is set in it, in the order of
the fields and each with the column and the value of that field, and nothing else. Under every
dialect these filters are written behind any others that are, and their arguments are the values
under the kinds of their fields. -/
theorem whereRecord_exact {query : Query}
    (resolved : (resolve naming query.type.descriptor).2 = .ok model)
    (known : query.model = .ok model) (types : query.type.HasTypes)
    (holds : query.type.Holds record) :
    let setting := settingOf naming query.type.descriptor
    let set := query.type.setFields record
    query.whereRecord record =
        { query with filters := query.filters ++ set.map setting.agreement } ∧
      ∀ (earlier : List Filter) (found : List Condition), conditions model earlier = .ok found →
        conditions model (earlier ++ set.map setting.agreement) =
            .ok (found ++ set.map setting.agreementTest) ∧
          ∀ dialect : Dialect,
            (∃ statement, countStatement model dialect (earlier ++ set.map setting.agreement) =
                .ok statement ∧
              statement.arguments =
                supplied (whereFragments dialect found) ++ set.map agreementArgument) ∧
            ∀ (order : List String) (limit offset : Option Nat),
              ∃ statement, selectStatement model dialect (earlier ++ set.map setting.agreement)
                  order limit offset = .ok statement ∧
                statement.arguments =
                  supplied (whereFragments dialect found) ++ set.map agreementArgument := by
  intro setting set
  have adds : query.whereRecord record =
      { query with filters := query.filters ++ set.map setting.agreement } := by
    rw [whereRecord, known]
    simp only [exampleFilters_of_resolve resolved]
    rfl
  refine ⟨adds, fun earlier found carried => ?_⟩
  have together : conditions model (earlier ++ set.map setting.agreement) =
      .ok (found ++ set.map setting.agreementTest) :=
    Outcome.mapM_append_eq_ok.mpr
      ⟨found, _, rfl, carried, conditions_of_setFields resolved types holds⟩
  have arguments (dialect : Dialect) :
      supplied (whereFragments dialect (found ++ set.map setting.agreementTest)) =
        supplied (whereFragments dialect found) ++ set.map agreementArgument := by
    rw [← supplied_agreementTests dialect setting, supplied_whereFragments,
      supplied_whereFragments, supplied_whereFragments, List.flatMap_append]
  exact ⟨together, fun dialect =>
    ⟨⟨_, countStatement_of_conditions together, arguments dialect⟩, fun order limit offset =>
      ⟨_, selectStatement_of_conditions together, arguments dialect⟩⟩⟩

/-- A record type in which a field is left out before all others and two fields have each other's
name for a column. -/
def transfer : RecordType where
  identity := 0
  name := "Transfer"
  table := none
  fields := [⟨"trace", .keptOut "Trace", "-"⟩, ⟨"payer", .typed ⟨.string, false⟩, "column:payee"⟩,
    ⟨"payee", .typed ⟨.string, false⟩, "column:payer"⟩,
    ⟨"amount", .typed ⟨.integer .uint32, true⟩, ""⟩]
  hooks := []
  answers := []

/-- The query on the transfers that are worth something. -/
def transfers : Query where
  dialect := .mySql
  type := transfer
  model := (resolve .snakeCasePlural transfer.descriptor).2
  filters := [.compare .greater "amount" (.int 0)]

/-- What is asked of transfers from Ada to Grace. -/
theorem whereRecord_exact_transfers :
    transfer.HasTypes ∧ transfer.Holds [.null, .text "Ada", .text "Grace", .null] ∧
      (transfers.whereRecord [.null, .text "Ada", .text "Grace", .null]).filters =
        [.compare .greater "amount" (.int 0), .compare .equal "payee" (.text "Ada"),
          .compare .equal "payer" (.text "Grace")] ∧
      ∃ model statement, transfers.model = .ok model ∧
        countStatement model .mySql
          [.compare .equal "payee" (.text "Ada"), .compare .equal "payer" (.text "Grace")] =
            .ok statement ∧
        statement.arguments = [(.text "Ada", .text), (.text "Grace", .text)] := by
  have types : transfer.HasTypes := by
    intro field member
    simp only [transfer, List.mem_cons, List.not_mem_nil, or_false] at member
    rcases member with rfl | rfl | rfl | rfl
    · exact .inl ⟨by decide, _, rfl⟩
    · exact .inr ⟨by decide, _, rfl⟩
    · exact .inr ⟨by decide, _, rfl⟩
    · exact .inr ⟨by decide, _, rfl⟩
  have holds : transfer.Holds [.null, .text "Ada", .text "Grace", .null] := by
    refine .cons ?_ (.cons ?_ (.cons ?_ (.cons ?_ .nil))) <;>
      · intro columnType same
        cases same <;> decide
  have accepted : transfers.model.toOption.isSome = true := by decide +kernel
  obtain ⟨model, found⟩ := Option.isSome_iff_exists.mp accepted
  rw [Outcome.toOption_eq_some] at found
  obtain ⟨adds, carries⟩ := @whereRecord_exact .snakeCasePlural model
    [.null, .text "Ada", .text "Grace", .null] transfers found found types holds
  obtain ⟨-, renders⟩ := carries [] [] rfl
  obtain ⟨⟨statement, counts, arguments⟩, -⟩ := renders .mySql
  rw [List.nil_append] at counts
  have agreements : (transfers.type.setFields [.null, .text "Ada", .text "Grace", .null]).map
      (settingOf .snakeCasePlural transfers.type.descriptor).agreement =
        [.compare .equal "payee" (.text "Ada"), .compare .equal "payer" (.text "Grace")] := by
    decide +kernel
  refine ⟨types, holds, ?_, model, statement, found, ?_, ?_⟩
  · rw [adds, agreements]
    rfl
  · rw [← agreements]
    exact counts
  · rw [arguments]
    decide +kernel

end Query

end RecordMapper
