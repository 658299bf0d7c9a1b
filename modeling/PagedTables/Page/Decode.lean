import PagedTables.Json.Basic
import PagedTables.Page.Basic
import PagedTables.Fault

/-!
# Pages in responses

A service answers with a JSON object that holds a list of objects and, if it likes, an integer
count and a link. Nothing else is a page; what is wrong with it is found in the order of object,
items, count and link.
-/
namespace PagedTables

namespace Page

/-- The count of a page: an integer, or nothing. -/
def count? : Json → Option (Option Int)
  | .null => some none
  | .int n => some (some n)
  | _ => none

/-- The text of a page's link, or nothing. -/
def linkText? : Json → Option (Option String)
  | .null => some none
  | .text s => some (some s)
  | _ => none

/-- The items of a page: a list of objects. -/
def objects? : Json → Option (List JsonObject)
  | .array items => items.mapM Json.asObject?
  | _ => none

/-- The page of a body, with its items as they came. -/
def ofJson (body : Json) : Except PageFlaw (Page Int JsonObject) :=
  match body with
  | .object members =>
    match objects? (Json.getD members "items") with
    | none => .error .items
    | some items =>
      match count? (Json.getD members "count") with
      | none => .error .count
      | some count =>
        match linkText? (Json.getD members "nextLink") with
        | none => .error .nextLink
        | some link => .ok ⟨items, count, link.bind Link.ofText?⟩
  | _ => .error .notAnObject

end Page

end PagedTables
