import RecordFilter.Filter.Request
import RecordFilter.Http.Problem

/-!
# RecordFilter.Http.Paging

The page that a request asks for, and the answer that holds it.
-/

namespace RecordFilter
namespace Http

def defaultSize : Int := 20

def maximalSize : Int := 500

def maximalPage : Int := 0xFFFFFFFF

def invalidPage : String := "INVALID_PAGE"

def invalidSize : String := "INVALID_PAGE_SIZE"

/-- The number under a key, if the key is there. White space around it does not count. -/
def readNumber? (request : Request) (key code : String) : Except Problem (Option Int) :=
  match request.first? key with
  | none => .ok none
  | some raw =>
    match Number.readInteger? .bits64 (Text.trim raw.toList) with
    | some n => .ok (some n)
    | none => .error (.badRequest code ("Invalid " ++ key ++ " '" ++ raw ++ "': not a number"))

/-- What is wrong with a page and a size, as code and message. -/
def rangeErrors (page size : Int) : List (String × String) :=
  (if 0 ≤ page ∧ page ≤ maximalPage then [] else [(invalidPage, "Page must be >= 0")]) ++
    if 1 ≤ size ∧ size ≤ maximalSize then []
    else [(invalidSize, "Size must be between 1 and " ++ toString maximalSize)]

def pageRequest (request : Request) : Except Problem PageRequest :=
  match readNumber? request Request.pageKey invalidPage with
  | .error problem => .error problem
  | .ok page =>
    match readNumber? request Request.sizeKey invalidSize with
    | .error problem => .error problem
    | .ok size =>
      let page := page.getD 0
      let size := size.getD defaultSize
      match rangeErrors page size with
      | [] => .ok ⟨page.toNat, size.toNat⟩
      | (code, message) :: rest =>
        .error (.badRequest code (Text.joined "; " (message :: rest.map (·.2))))

/-! ## Answer -/

/-- How many pages of a size the rows fill. -/
def totalPages (total size : Nat) : Nat := (total + size - 1) / size

def pageResponse (content : List Json) (request : PageRequest) (total : Nat) : Json :=
  .object
    [("content", .array content),
      ("page", .nat request.page),
      ("size", .nat request.size),
      ("total_elements", .nat total),
      ("total_pages", .nat (totalPages total request.size))]

end Http
end RecordFilter
