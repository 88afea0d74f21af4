import SkinLayout.Number.Decimal
/-!
# Errors

Only requests that make no sense are errors; a missing font, image, widget or
property has a defined fallback.  Each cause is a constructor, and `message` is
the one place that words it.
-/
namespace SkinLayout

/-! ## Causes -/

/-- Requests that have no answer. -/
inductive BadRequest where
  /-- A unified dimension along no axis. -/
  | unresolvableRole
  | invalidOperator
  | unbuildableOperator
  /-- A widget asked for the measure of the invalid role. -/
  | unmeasurableRole (widget : String)
  | unknownFontMeasure (name : String)
  | unknownImageMeasure (name : String)
  | unknownWidget (id : Nat)
  deriving DecidableEq, Repr

/-- What makes a configuration unusable. -/
inductive ConfigFault where
  /-- The text is no configuration at all. -/
  | malformed
  | negativeDisplay (width height : Float32)
  | zeroNesting
  | nonPositiveFont (name : String)
  deriving DecidableEq

inductive LayoutError where
  | invalidRequest (cause : BadRequest)
  | operandSlotsFull
  | unexpectedElement (expected found : String)
  | missingAttribute (element key : String)
  | invalidAttribute (element key value : String)
  | missingChild (element : String)
  | nestingTooDeep (limit : Nat)
  | invalidConfig (fault : ConfigFault)
  deriving DecidableEq

/-! ## Wording -/

def BadRequest.message : BadRequest → String
  | .unresolvableRole => "unified dimension cannot resolve role Invalid"
  | .invalidOperator => "invalid operator"
  | .unbuildableOperator => "cannot build an invalid operator"
  | .unmeasurableRole widget => "cannot measure role Invalid on widget `" ++ widget ++ "`"
  | .unknownFontMeasure name => "unknown font metric `" ++ name ++ "`"
  | .unknownImageMeasure name => "unknown image metric `" ++ name ++ "`"
  | .unknownWidget id => "unknown widget WidgetId(" ++ id.repr ++ ")"

def ConfigFault.message : ConfigFault → String
  | .malformed => "malformed text"
  | .negativeDisplay width height =>
    "display size " ++ Single.toText width ++ "x" ++ Single.toText height ++ " is negative"
  | .zeroNesting => "max_nesting_depth must be at least 1"
  | .nonPositiveFont name => "font `" ++ name ++ "` has non-positive native_size"

def LayoutError.message : LayoutError → String
  | .invalidRequest cause => "invalid request: " ++ cause.message
  | .operandSlotsFull => "operator already has two operands"
  | .unexpectedElement expected found =>
    "unexpected element <" ++ found ++ ">, expected " ++ expected
  | .missingAttribute element key =>
    "<" ++ element ++ "> is missing attribute `" ++ key ++ "`"
  | .invalidAttribute element key value =>
    "<" ++ element ++ "> has invalid " ++ key ++ "=\"" ++ value ++ "\""
  | .missingChild element => "<" ++ element ++ "> is missing a child element"
  | .nestingTooDeep limit => "dimension nesting exceeds " ++ limit.repr ++ " levels"
  | .invalidConfig fault => "invalid configuration: " ++ fault.message

end SkinLayout
