import DevEnv.Container.Basic

/-!
Choosing containers out of a list: by state, by a text that they contain, by id or name.
-/

namespace DevEnv

set_option autoImplicit false

/-- Which states a list shows. -/
inductive StateFilter
  | all
  | running
  /-- Every state but running. -/
  | stopped
deriving DecidableEq, Repr

namespace StateFilter

def name : StateFilter → String
  | all => "all"
  | running => "running"
  | stopped => "stopped"

def options : List StateFilter := [all, running, stopped]

def ofName? (s : String) : Option StateFilter := options.find? fun f => f.name == s

theorem ofName?_name (f : StateFilter) : ofName? f.name = some f := by
  cases f <;> rfl

def admits : StateFilter → Container → Bool
  | all, _ => true
  | running, c => c.isRunning
  | stopped, c => !c.isRunning

end StateFilter

/-- Whether one list occurs in another as a run. -/
def isInfix (needle : List Char) : List Char → Bool
  | [] => needle.isEmpty
  | c :: cs => needle.isPrefixOf (c :: cs) || isInfix needle cs

/-- Whether a text occurs in another. -/
def occursIn (needle text : String) : Bool := isInfix needle.toList text.toList

namespace Container

/-- Whether a query occurs in the name, image or id, in whatever case; an empty one always does. -/
def answers (query : String) (c : Container) : Bool :=
  query.isEmpty ||
    (let q := Text.lower query
    occursIn q (Text.lower c.name) || occursIn q (Text.lower c.image) ||
      occursIn q (Text.lower c.id))

def search (query : String) (cs : List Container) : List Container := cs.filter (answers query)

def inState (f : StateFilter) (cs : List Container) : List Container := cs.filter f.admits

/-- A state filter given by its name. -/
inductive UnknownFilter
  | named (name : String)
deriving DecidableEq, Repr

def UnknownFilter.message : UnknownFilter → String
  | named name => "Unknown state filter '" ++ name ++ "'"

def inNamedState (filter : String) (cs : List Container) : Except UnknownFilter (List Container) :=
  match StateFilter.ofName? filter with
  | some f => .ok (inState f cs)
  | none => .error (.named filter)

/-- What a list shows for a state filter and a query. -/
def visible (filter query : String) (cs : List Container) : Except UnknownFilter (List Container) :=
  (inNamedState filter cs).map (search query)

/-- Whether a text is the start of the id, or the name. -/
def isMeantBy (text : String) (c : Container) : Bool :=
  text.toList.isPrefixOf c.id.toList || c.name == text

/-- The first container that a text may mean. -/
def find? (text : String) (cs : List Container) : Option Container :=
  List.find? (isMeantBy text) cs

end Container

end DevEnv
