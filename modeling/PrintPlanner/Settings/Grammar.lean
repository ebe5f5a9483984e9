import PrintPlanner.Json.Grammar
import PrintPlanner.Settings.Codec

/-!
# The grammar of planner settings

What the bytes of planner settings have to look like, said without a reader.  Settings are an object
or a list.  An object may have any fields in any order, but at most one of them is the setting, and
that one has a boolean value.  A list has the value of the setting, or nothing.
-/

set_option autoImplicit false

namespace PrintPlanner.PlannerConfig

open Json

/-- A field of an object, and the value that it gives to the setting if it is that field. -/
inductive IsField : Option Bool → List UInt8 → Prop where
  | setting {key between gap : List UInt8} {value : Bool} (named : IsString key fieldName)
      (front : IsGap between) (behind : IsGap gap) :
      IsField (some value) (key ++ (between ++ byte ':' :: (gap ++ (boolLiteral value).map byte)))
  | other {key between gap value : List UInt8} {name : String} (named : IsString key name)
      (differs : name ≠ fieldName) (front : IsGap between) (behind : IsGap gap)
      (isValue : IsValue value) :
      IsField none (key ++ (between ++ byte ':' :: (gap ++ value)))

/-- The fields of an object up to its closing byte, and the values that they give to the setting. -/
inductive IsFields : (first : Bool) → List Bool → List UInt8 → Prop where
  | done {first : Bool} {gap : List UInt8} (blank : IsGap gap) : IsFields first [] gap
  | next {first : Bool} {given : Option Bool} {others : List Bool}
      {separator field rest : List UInt8} (separated : IsSeparator first separator)
      (isField : IsField given field) (further : IsFields false others rest) :
      IsFields first (given.toList ++ others) (separator ++ (field ++ rest))

/-- The bytes are planner settings without blanks around them. -/
inductive IsSettings : PlannerConfig → List UInt8 → Prop where
  | nothing {gap : List UInt8} (blank : IsGap gap) :
      IsSettings default (byte '[' :: (gap ++ [byte ']']))
  | value {before after : List UInt8} (value : Bool) (front : IsGap before)
      (behind : IsGap after) :
      IsSettings ⟨value⟩
        (byte '[' :: (before ++ ((boolLiteral value).map byte ++ (after ++ [byte ']']))))
  | unset {body : List UInt8} (fields : IsFields true [] body) :
      IsSettings default (0x7b :: (body ++ [0x7d]))
  | set {value : Bool} {body : List UInt8} (fields : IsFields true [value] body) :
      IsSettings ⟨value⟩ (0x7b :: (body ++ [0x7d]))

end PrintPlanner.PlannerConfig
