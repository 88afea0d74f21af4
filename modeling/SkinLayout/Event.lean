import SkinLayout.Dimension.Role
import SkinLayout.Dimension.Measure
import SkinLayout.Unified.Text
import SkinLayout.Text.Quoted
import SkinLayout.Error
/-!
# Events

What happens on the way to a result without being an error: a name nobody knows, a
fallback taken, cached areas dropped.  As with errors, the cause is a value and
its wording stands in one place.
-/
namespace SkinLayout

inductive Level where
  | debug
  | warn
  deriving DecidableEq, Repr

inductive Event where
  | unknownRole (name : String)
  | unknownOperator (name : String)
  | fontMissing (measure : FontMeasure) (widget : String)
  | imageMissing (source : ImageSource)
  | childMissing (widget path : String)
  | roleUnmeasured (role : Role)
  | propertyChildMissing (widget path : String)
  | propertyMissing (widget property : String)
  | propertyNotNumber (property raw : String)
  | propertyNotUnified (property raw : String) (fault : UnifiedFault)
  | areaPropertyMissing (widget property : String)
  | areaPropertyNotRect (property raw : String) (fault : UnifiedFault)
  | strayAttribute (key : String)
  | strayClose
  | fontResized (font : String) (dropped : Nat)
  | widgetInvalidated (id dropped : Nat)
  deriving DecidableEq

/-- The source as messages show it. -/
def ImageSource.shown : ImageSource → String
  | .named name => "Named(" ++ quoted name ++ ")"
  | .property widget key =>
    "Property \x7b widget: " ++
      (match widget with
      | none => "None"
      | some w => "Some(" ++ quoted w ++ ")") ++
      ", property: " ++ quoted key ++ " \x7d"

namespace Event

def level : Event → Level
  | .unknownRole _ | .unknownOperator _ | .roleUnmeasured _ | .propertyNotNumber _ _
  | .propertyNotUnified _ _ _ | .areaPropertyNotRect _ _ _ | .strayAttribute _
  | .strayClose => .warn
  | _ => .debug

def message : Event → String
  | .unknownRole name => "unknown dimension role `" ++ name ++ "`"
  | .unknownOperator name => "unknown dimension operator `" ++ name ++ "`"
  | .fontMissing measure widget =>
    "no font for " ++ measure.name ++ " on `" ++ widget ++ "`, using padding only"
  | .imageMissing source => "image for " ++ source.shown ++ " not found, resolving to 0"
  | .childMissing widget path =>
    "widget `" ++ widget ++ "` has no child `" ++ path ++ "`, resolving to 0"
  | .roleUnmeasured role => role.name ++ " is not a widget measurement, resolving to 0"
  | .propertyChildMissing widget path =>
    "widget `" ++ widget ++ "` has no child `" ++ path ++ "`, property resolves to 0"
  | .propertyMissing widget property =>
    "widget `" ++ widget ++ "` has no property `" ++ property ++ "`, resolving to 0"
  | .propertyNotNumber property raw =>
    "property `" ++ property ++ "` = `" ++ raw ++ "` is not a number, resolving to 0"
  | .propertyNotUnified property raw fault =>
    "property `" ++ property ++ "` = `" ++ raw ++ "` is not a unified value (" ++ fault.message ++
      "), resolving to 0"
  | .areaPropertyMissing widget property =>
    "widget `" ++ widget ++ "` has no area property `" ++ property ++ "`, using dimensions"
  | .areaPropertyNotRect property raw fault =>
    "area property `" ++ property ++ "` = `" ++ raw ++ "` is not a rect (" ++ fault.message ++
      "), using dimensions"
  | .strayAttribute key => "attribute `" ++ key ++ "` written outside an open tag, ignored"
  | .strayClose => "close_tag without a matching open_tag"
  | .fontResized font dropped =>
    "font `" ++ font ++ "` changed size, dropped " ++ dropped.repr ++ " cached areas"
  | .widgetInvalidated id dropped =>
    "widget WidgetId(" ++ id.repr ++ ") invalidated, dropped " ++ dropped.repr ++ " cached areas"

end Event

end SkinLayout
