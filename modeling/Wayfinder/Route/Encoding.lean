import Wayfinder.Json.Decoder
import Wayfinder.Route.Directive
import Wayfinder.Route.Path

/-!
# Paths and directives in JSON

A path is the list of its segments; any list of strings is read as a path.  A directive is its key.
-/

namespace Wayfinder

def RoutePath.toJson (p : RoutePath) : Json := .array (p.segments.map .string)

def RoutePath.decoder : Decoder RoutePath := (Decoder.list .string).map .ofSegments

def Directive.toJson (d : Directive) : Json := .string d.key

def Directive.decoder : Decoder Directive := Decoder.string.check Directive.parse

/-- An order of directives. -/
def Directive.orderToJson (ds : List Directive) : Json := .array (ds.map toJson)

def Directive.orderDecoder : Decoder (List Directive) := Decoder.list decoder

end Wayfinder
