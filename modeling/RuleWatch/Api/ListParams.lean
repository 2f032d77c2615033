import RuleWatch.Json.Decoder
import RuleWatch.Listing.OrderText
import RuleWatch.Listing.Page

/-!
# Parameters of listings

What a client can say about a listing: a filter, an order, and a page. What is not said, or left
blank, is the standard.
-/

namespace RuleWatch.Api

open Listing

/-- What a client says about a listing. -/
structure ListParams where
  filter : Option String
  sortField : Option String
  sortOrder : Option String
  pageNumber : Option Nat
  pageSize : Option Nat
  deriving DecidableEq, Repr, Inhabited

namespace ListParams

/-- A number that is given as a text; a blank one is not given. -/
def numberOfText (s : String) : Option (Option Nat) :=
  let s := Text.trim s
  if s.isEmpty then some none else (Text.uint64? s).map some

/-- The size of a page when none is asked for. -/
def standardSize : Nat := 10

/-- Why a page cannot be given. -/
inductive PageFault
  | number
  | size
  | range (page : Page)
  deriving DecidableEq, Repr

def PageFault.message : PageFault → String
  | .number => "page_no must be at least 1"
  | .size => "page_size must be between 1 and " ++ toString Page.maxSize
  | .range page => page.outOfRangeMessage

/-- The page that is asked for. -/
def page (p : ListParams) : Except PageFault Page :=
  let number := p.pageNumber.getD 1
  let size := p.pageSize.getD standardSize
  if number = 0 then .error .number
  else if size = 0 ∨ Page.maxSize < size then .error .size
  else if (Page.offset? ⟨number, size⟩).isNone then .error (.range ⟨number, size⟩)
  else .ok ⟨number, size⟩

/-- The order that is asked for. -/
def order (φ : Type) {ρ : Type} [Column φ ρ] (p : ListParams) : Except String (Order φ) :=
  match Order.read φ p.sortField p.sortOrder with
  | .ok order => .ok order
  | .error (.invalidOrder text) => .error text
  | .error f => .error f.message

/-- The filter without blanks around it, unless nothing is left. -/
def needle (p : ListParams) : Option String :=
  presentText p.filter

open Json in
/-- A number: null, an integer, or a text. -/
def number : Decoder (Option Nat)
  | .null => .ok none
  | o => do
    match ← Decoder.member o with
    | .number (.int n) => if 0 ≤ n then return some n.toNat else throw .shape
    | .string s => match numberOfText s with
      | some n => return n
      | none => throw .shape
    | _ => throw .shape

open Json in
/-- The parameters as a record. -/
def record : Record ListParams :=
  let text (name : String) : Record (Option String) :=
    .defaulted name [] Decoder.string.nullable none
  ListParams.mk <$> text "filter" <*> text "sort_field" <*> text "sort_order"
    <*> .defaulted "page_no" [] number none
    <*> .defaulted "page_size" [] number none

end ListParams

end RuleWatch.Api
