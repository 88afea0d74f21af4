import SkinLayout.Config.Basic
import SkinLayout.Data.Datum
import SkinLayout.Toml.Reader
/-!
# Configurations as data

Every field of a configuration may be left out, and unknown ones do not count.
-/
namespace SkinLayout

namespace FontConfig

def fieldNames : List String :=
  ["name", "native_size", "point_size", "line_spacing", "baseline", "advance"]

def ofDatum? (d : Datum) : Option FontConfig := do
  let r ← d.record? 2 fieldNames
  let name ← Datum.required? Datum.text? "name" r
  let nativeSize ← Datum.required? Datum.float? "native_size" r
  let pointSize ← Datum.optional? Datum.float? "point_size" r
  let lineSpacing ← Datum.optional? Datum.float? "line_spacing" r
  let baseline ← Datum.optional? Datum.float? "baseline" r
  let advance ← Datum.optional? Datum.float? "advance" r
  return { name, nativeSize, pointSize, lineSpacing, baseline, advance }

def toDatum (f : FontConfig) : Datum :=
  .fields [("name", .text f.name), ("native_size", .number f.nativeSize),
    ("point_size", Datum.ofOption .number f.pointSize),
    ("line_spacing", Datum.ofOption .number f.lineSpacing),
    ("baseline", Datum.ofOption .number f.baseline), ("advance", Datum.ofOption .number f.advance)]

end FontConfig

namespace ImageConfig

def fieldNames : List String := ["name", "width", "height", "offset_x", "offset_y"]

def ofDatum? (d : Datum) : Option ImageConfig := do
  let r ← d.record? 3 fieldNames
  let name ← Datum.required? Datum.text? "name" r
  let width ← Datum.required? Datum.float? "width" r
  let height ← Datum.required? Datum.float? "height" r
  let offsetX ← Datum.fieldD? Datum.float? 0 "offset_x" r
  let offsetY ← Datum.fieldD? Datum.float? 0 "offset_y" r
  return { name, width, height, offsetX, offsetY }

def toDatum (i : ImageConfig) : Datum :=
  .fields [("name", .text i.name), ("width", .number i.width), ("height", .number i.height),
    ("offset_x", .number i.offsetX), ("offset_y", .number i.offsetY)]

end ImageConfig

namespace Config

def fieldNames : List String :=
  ["display_width", "display_height", "pixel_align", "max_nesting_depth", "fonts", "images"]

def ofDatum? (d : Datum) : Option Config := do
  let r ← d.record? 0 fieldNames
  let displayWidth ← Datum.fieldD? Datum.float? default.displayWidth "display_width" r
  let displayHeight ← Datum.fieldD? Datum.float? default.displayHeight "display_height" r
  let pixelAlign ← Datum.fieldD? Datum.flag? default.pixelAlign "pixel_align" r
  let maxNesting ← Datum.fieldD? Datum.natural? default.maxNesting "max_nesting_depth" r
  let fonts ← Datum.fieldD? (Datum.list? FontConfig.ofDatum?) default.fonts "fonts" r
  let images ← Datum.fieldD? (Datum.list? ImageConfig.ofDatum?) default.images "images" r
  return { displayWidth, displayHeight, pixelAlign, maxNesting, fonts, images }

def toDatum (c : Config) : Datum :=
  .fields [("display_width", .number c.displayWidth), ("display_height", .number c.displayHeight),
    ("pixel_align", .flag c.pixelAlign), ("max_nesting_depth", .integer c.maxNesting),
    ("fonts", .list true (c.fonts.map FontConfig.toDatum)),
    ("images", .list true (c.images.map ImageConfig.toDatum))]

/-- Reads a configuration from a text, given what reads its fields; one that cannot be used is
refused. -/
def ofTextWith (read : String → Option Config) (s : String) : Except ConfigFault Config :=
  match read s with
  | none => .error .malformed
  | some c =>
    match c.fault? with
    | some fault => .error fault
    | none => .ok c

/-- The configuration that a document describes, be it one that can be used or not. -/
def ofDocument? (s : String) : Option Config :=
  (Toml.ofString? s).bind fun t => ofDatum? (Datum.ofToml t)

/-- Reads a configuration from the text of a document. -/
def ofText (s : String) : Except ConfigFault Config := ofTextWith ofDocument? s

/-- Reads a configuration from the bytes of a file. -/
def ofBytes (bytes : ByteArray) : Except ConfigFault Config :=
  match String.fromUTF8? bytes with
  | none => .error .malformed
  | some s => ofText s

end Config

end SkinLayout
