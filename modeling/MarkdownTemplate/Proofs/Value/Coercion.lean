import MarkdownTemplate.Value.Text
import MarkdownTemplate.Values

/-!
# One text for a value

A value can come from a header or from a JSON object. Both are turned into text, strings as they are
and collections as compact JSON, and the texts are the same with one exception: a double that needs
a positive exponent has a plus sign in it as a JSON value and none as a header value.

* `Json.toValue`: a JSON value as a header value;
* `Json.toJson?_toValue`: as such it is still the same JSON value;
* `FloatLayout.exponent_signed`: the two texts of a double with a positive exponent;
* `Json.coercion_valueText`: when a JSON value has the text of the header value.
-/

namespace MarkdownTemplate

namespace Json

mutual

/-- The header value with the same content, objects as mappings in the order of their members. -/
def toValue : Json → Value
  | null => .null
  | bool value => .bool value
  | number value => .number value
  | string value => .string value
  | array items => .sequence (itemValues items)
  | object members => .mapping (memberValues members)
termination_by structural value => value

/-- `toValue` of each item. -/
def itemValues : List Json → List Value
  | [] => []
  | item :: items => item.toValue :: itemValues items
termination_by structural items => items

/-- The members as entries of a mapping with string keys. -/
def memberValues : List (String × Json) → List (Value × Value)
  | [] => []
  | (name, value) :: members => (.string name, value.toValue) :: memberValues members
termination_by structural members => members

end

mutual

/-- `Value.toJson?` inverts `toValue`. -/
theorem toJson?_toValue (value : Json) : value.toValue.toJson? = some value := by
  cases value with
  | null => rfl
  | bool value => rfl
  | number value => rfl
  | string value => rfl
  | array items =>
    rw [toValue, Value.toJson?, itemsToJson?_itemValues items, Option.map_some]
  | object members =>
    rw [toValue, Value.toJson?, entriesToJson?_memberValues members, Option.map_some]

theorem itemsToJson?_itemValues (items : List Json) :
    Value.itemsToJson? (itemValues items) = some items := by
  cases items with
  | nil => rfl
  | cons item items =>
    rw [itemValues, Value.itemsToJson?, toJson?_toValue item, itemsToJson?_itemValues items]
    rfl

theorem entriesToJson?_memberValues (members : List (String × Json)) :
    Value.entriesToJson? (memberValues members) = some members := by
  cases members with
  | nil => rfl
  | cons member members =>
    obtain ⟨name, value⟩ := member
    rw [memberValues, Value.entriesToJson?, Value.jsonKey?, toJson?_toValue value,
      entriesToJson?_memberValues members]
    rfl

end

end Json

/-! ### Doubles in the two layouts -/

/-- `decimal` has more than sixteen digits before the point, so it is written with a positive
exponent. -/
def DecimalDigits.HasPositiveExponent (decimal : DecimalDigits) : Prop :=
  decimal.digits ≠ [] ∧ 16 < decimal.point

namespace FloatLayout

variable {decimal : DecimalDigits}

/-- `digitsText` depends on a layout only by its limits and its text of the exponent. -/
theorem digitsText_congr {first second : FloatLayout}
    (hintegral : first.longestIntegral = second.longestIntegral)
    (hzeros : first.longestZeros = second.longestZeros)
    (hexponent : first.exponentText (decimal.point - 1) = second.exponentText (decimal.point - 1)) :
    first.digitsText decimal = second.digitsText decimal := by
  simp only [digitsText, hintegral, hzeros, hexponent]

/-- `jsonLayout` and `headerLayout` agree without a positive exponent. -/
theorem digitsText_jsonLayout (h : ¬ decimal.HasPositiveExponent) :
    Number.jsonLayout.digitsText decimal = Number.headerLayout.digitsText decimal := by
  by_cases hdigits : decimal.digits = []
  · -- where there is no digit, nothing is put before an exponent
    rw [digitsText, digitsText, hdigits]
    rfl
  · have hpoint : decimal.point ≤ 16 := Int.not_lt.mp fun hlarge => h ⟨hdigits, hlarge⟩
    by_cases hpositive : 0 < decimal.point
    · simp only [digitsText, Number.jsonLayout, Number.headerLayout, hpositive, hpoint,
        decide_true, Bool.and_self, if_true]
    · have hnegative : decimal.point - 1 < 0 := by omega
      have hexponent : Number.jsonLayout.exponentText (decimal.point - 1) =
          Number.headerLayout.exponentText (decimal.point - 1) := by
        rw [exponentText, exponentText, if_pos hnegative, if_pos hnegative]
      exact digitsText_congr rfl rfl hexponent

/-- `jsonLayout` writes a positive exponent with a plus sign, and `headerLayout` without. -/
theorem exponent_signed (h : decimal.HasPositiveExponent) :
    ∃ front exponent, Number.headerLayout.digitsText decimal = front ++ 'e' :: exponent ∧
      Number.jsonLayout.digitsText decimal = front ++ 'e' :: '+' :: exponent := by
  obtain ⟨hdigits, hpoint⟩ := h
  obtain ⟨digit, rest, hcons⟩ := List.exists_cons_of_ne_nil hdigits
  have hlong : ¬ decimal.point ≤ 16 := by omega
  have hshort : ¬ decimal.point ≤ 0 := by omega
  have hpositive : ¬ decimal.point - 1 < 0 := by omega
  -- the digits come first, with a point after the first of them if there are more
  refine ⟨if rest = [] then [digit] else digit :: '.' :: rest,
    Nat.toDigits 10 (decimal.point - 1).natAbs, ?_, ?_⟩
  all_goals
    cases rest with
    | nil =>
      simp [digitsText, exponentText, Number.headerLayout, Number.jsonLayout, hcons, hlong,
        hshort, hpositive]
    | cons second rest =>
      simp [digitsText, exponentText, Number.headerLayout, Number.jsonLayout, hcons, hlong,
        hshort, hpositive]

end FloatLayout

namespace Json

/-- The value is a double that is written with a positive exponent. -/
def HasPositiveExponent : Json → Prop
  | number (.float (.finite _ mantissa exponent)) =>
    (Binary64.shortest mantissa exponent).HasPositiveExponent
  | _ => False

theorem not_hasPositiveExponent_of {value : Json}
    (h : ∀ negative mantissa exponent,
      value ≠ number (.float (.finite negative mantissa exponent))) :
    ¬ value.HasPositiveExponent := by
  intro hpositive
  unfold HasPositiveExponent at hpositive
  split at hpositive
  · exact h _ _ _ rfl
  · exact hpositive

theorem valueText?_number (value : Number) :
    (number value).valueText? = some (value.jsonText?.getD "null") := by
  simp [valueText?, compact, compactChars]

/-- `valueText?` is `Value.toText` of all values but doubles. -/
theorem valueText?_of_not_float {value : Json} (hnull : value ≠ null)
    (hfloat : ∀ x, value ≠ number (.float x)) : value.valueText? = some value.toValue.toText := by
  -- a collection is written as the JSON value that it is
  have hjson := toJson?_toValue value
  cases value with
  | null => exact absurd rfl hnull
  | bool value => cases value <;> rfl
  | number value =>
    cases value with
    | integer value => exact valueText?_number (.integer value)
    | float value => exact absurd rfl (hfloat value)
  | string value => rfl
  | array items =>
    rw [toValue] at hjson ⊢
    simp only [Value.toText, hjson, valueText?]
  | object members =>
    rw [toValue] at hjson ⊢
    simp only [Value.toText, hjson, valueText?]

section Double

variable {negative : Bool} {mantissa : Nat} {exponent : Int}

theorem valueText?_double :
    (number (.float (.finite negative mantissa exponent))).valueText? =
      some (Number.jsonLayout.finiteText negative mantissa exponent) :=
  valueText?_number (.float (.finite negative mantissa exponent))

theorem toText_toValue_double :
    (number (.float (.finite negative mantissa exponent))).toValue.toText =
      Number.headerLayout.finiteText negative mantissa exponent :=
  rfl

/-- `valueText?` is `Value.toText` of a double without positive exponent. -/
theorem valueText?_of_not_hasPositiveExponent
    (h : ¬ (Binary64.shortest mantissa exponent).HasPositiveExponent) :
    (number (.float (.finite negative mantissa exponent))).valueText? =
      some (number (.float (.finite negative mantissa exponent))).toValue.toText := by
  rw [valueText?_double, toText_toValue_double, FloatLayout.finiteText, FloatLayout.finiteText,
    FloatLayout.digitsText_jsonLayout h]

/-- `valueText?` and `Value.toText` of a double with a positive exponent differ by a plus sign. -/
theorem valueText?_of_hasPositiveExponent (negative : Bool)
    (h : (Binary64.shortest mantissa exponent).HasPositiveExponent) :
    ∃ front digits : String,
      (number (.float (.finite negative mantissa exponent))).toValue.toText =
          front ++ "e" ++ digits ∧
        (number (.float (.finite negative mantissa exponent))).valueText? =
          some (front ++ "e+" ++ digits) := by
  obtain ⟨front, digits, hheader, hjson⟩ := FloatLayout.exponent_signed h
  refine ⟨String.ofList ((if negative then ['-'] else []) ++ front), String.ofList digits, ?_, ?_⟩
  · rw [toText_toValue_double, FloatLayout.finiteText, hheader]
    apply String.toList_injective
    simp
  · rw [valueText?_double, FloatLayout.finiteText, hjson]
    congr 1
    apply String.toList_injective
    simp

end Double

/-- Looking up a non-null `value` in a JSON object gives `Value.toText` of the same header value if
and only if `value.HasPositiveExponent` fails. On a double with a positive exponent, the looked-up
text has a plus sign in the exponent and `toText` has none. JSON has no infinities, so `hfinite`
holds of all its values. -/
theorem coercion_valueText {members : Std.TreeMap String Json} {name : String} {value : Json}
    (hmember : members[name]? = some value) (hnull : value ≠ null)
    (hfinite : ∀ x, value = number (.float x) → x.isFinite) :
    (ValueSource.value? members name = some value.toValue.toText ↔ ¬ value.HasPositiveExponent) ∧
      (value.HasPositiveExponent → ∃ front digits : String,
        value.toValue.toText = front ++ "e" ++ digits ∧
          ValueSource.value? members name = some (front ++ "e+" ++ digits)) := by
  have hvalue : ValueSource.value? members name = value.valueText? := by
    simp only [ValueSource.value?, hmember, Option.bind_some]
  rw [hvalue]
  by_cases hfloat : ∃ x, value = number (.float x)
  · obtain ⟨x, rfl⟩ := hfloat
    have hx := hfinite x rfl
    cases x with
    | nan => cases hx
    | infinite negative => cases hx
    | finite negative mantissa exponent =>
      refine ⟨⟨fun htexts hpositive => ?_, valueText?_of_not_hasPositiveExponent⟩,
        valueText?_of_hasPositiveExponent negative⟩
      -- the plus sign makes one of the texts longer
      obtain ⟨front, digits, hheader, hjson⟩ :=
        valueText?_of_hasPositiveExponent negative hpositive
      rw [hheader, hjson, Option.some.injEq] at htexts
      have hlength : "e+".length = "e".length := by simpa using congrArg String.length htexts
      exact absurd hlength (by decide)
  · have hother : ∀ x, value ≠ number (.float x) := fun x heq => hfloat ⟨x, heq⟩
    have hnone : ¬ value.HasPositiveExponent :=
      not_hasPositiveExponent_of fun negative mantissa exponent => hother _
    exact ⟨iff_of_true (valueText?_of_not_float hnull hother) hnone, fun h => absurd h hnone⟩

/-- Inside a collection, the double is written with a plus sign both ways. -/
theorem coercion_valueText_nested :
    let value := array [number (.float (.ofDecimal false 1 16))]
    let members := (∅ : Std.TreeMap String Json).insert "n" value
    members["n"]? = some value ∧ value ≠ null ∧ (∀ x, value = number (.float x) → x.isFinite) ∧
      ¬ value.HasPositiveExponent ∧ value.toValue.toText = "[1e+16]" ∧
      ValueSource.value? members "n" = some value.toValue.toText := by
  intro value members
  have hmember : members["n"]? = some value := Std.TreeMap.getElem?_insert_self
  have hnull : value ≠ null := by simp [value]
  have hfinite : ∀ x, value = number (.float x) → x.isFinite := by simp [value]
  have hsame := (coercion_valueText hmember hnull hfinite).1
  exact ⟨hmember, hnull, hfinite, id, by decide +kernel, hsame.mpr id⟩

/-- `1e16` on its own is written with a plus sign in one way only. -/
theorem coercion_valueText_double :
    let value := number (.float (.ofDecimal false 1 16))
    let members := (∅ : Std.TreeMap String Json).insert "n" value
    ValueSource.value? members "n" = some "1e+16" ∧ value.toValue.toText = "1e16" := by
  decide +kernel

end Json

end MarkdownTemplate
