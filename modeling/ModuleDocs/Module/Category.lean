import ModuleDocs.Hcl.Declaration

/-! # Categories of variables

    A variable without default has to be given; with a validation besides,
    its value triggers further demands.  A variable with default is optional;
    with a validation besides, it is demanded under a condition.

        default   validation   category
        no        no           required
        no        yes          trigger
        yes       yes          conditional
        yes       no           optional -/

namespace ModuleDocs

/-- The part a variable plays for callers of a module. -/
inductive Category where
  | required
  | trigger
  | conditional
  | optional
deriving DecidableEq, Repr

namespace Category

/-- All categories, in the order in which they are listed. -/
def all : List Category := [required, trigger, conditional, optional]

/-- The name of a category. -/
def name : Category → Text
  | required => "required"
  | trigger => "trigger"
  | conditional => "conditional"
  | optional => "optional"

/-- The category of a declaration. -/
def of (d : Declaration) : Category :=
  match d.hasDefault, d.validation.isSome with
  | false, false => required
  | false, true => trigger
  | true, true => conditional
  | true, false => optional

end Category

/-- Declarations sorted into the four categories, each list in the order of discovery. -/
structure Classified where
  required : List Declaration := []
  trigger : List Declaration := []
  conditional : List Declaration := []
  optional : List Declaration := []

namespace Classified

/-- Sorts declarations into the categories. -/
def ofList (ds : List Declaration) : Classified where
  required := ds.filter (Category.of · = .required)
  trigger := ds.filter (Category.of · = .trigger)
  conditional := ds.filter (Category.of · = .conditional)
  optional := ds.filter (Category.of · = .optional)

/-- The declarations of one category. -/
def ofCategory (c : Classified) : Category → List Declaration
  | .required => c.required
  | .trigger => c.trigger
  | .conditional => c.conditional
  | .optional => c.optional

/-- The number of declarations. -/
def total (c : Classified) : Nat :=
  c.required.length + c.trigger.length + c.conditional.length + c.optional.length

/-- The first category that holds a declaration of this name. -/
def categoryOf? (c : Classified) (name : Text) : Option Category :=
  Category.all.find? fun category => (c.ofCategory category).any (·.name = name)

@[simp] theorem ofCategory_ofList (ds : List Declaration) (category : Category) :
    (ofList ds).ofCategory category = ds.filter (Category.of · = category) := by
  cases category <;> rfl

end Classified

end ModuleDocs
