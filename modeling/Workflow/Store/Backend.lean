import Workflow.Settings.Loading

/-!
# Kinds of stores

The address of a database tells the kind of store that keeps instances, and where it is.
-/

namespace Workflow

/-- Where instances are kept. -/
inductive Backend where
  | memory
  /-- In the table of a file, or of memory. -/
  | table (path : String)
  /-- On a database server. -/
  | server (address : String)
  deriving DecidableEq

namespace Backend

/-- What the table of no file is called. -/
def unnamedTable : String := ":memory:"

/-- The rest of a text after what it begins with. -/
def after? (start text : String) : Option String :=
  if text.toList.take start.length = start.toList then
    some (String.ofList (text.toList.drop start.length))
  else none

/-- The backend of an address; no address, or an empty one, is that of memory. -/
def ofAddress? (address : Option String) : Except Fault Backend :=
  match given? address with
  | none => .ok .memory
  | some address =>
    if address = "memory://" then .ok .memory
    else match after? "sqlite://" address with
      | some path => .ok (.table (if path = "" then unnamedTable else path))
      | none =>
        if (after? "postgres://" address).isSome || (after? "postgresql://" address).isSome then
          .ok (.server address)
        else .error (.stated "ValueError" s!"Unsupported database backend: {address}")

/-- The directory of a file. -/
def directory (path : String) : String :=
  let name := fileName path.toList
  String.ofList (path.toList.take (path.toList.length - name.length))

/-- Opens a backend; the directory of a table's file has to be there. -/
def opened (backend : Backend) (isDirectory : String → Bool) : Except Fault Backend :=
  match backend with
  | .table path =>
    if path = unnamedTable || (isDirectory (directory path) && !isDirectory path) then .ok backend
    else .error .storeUnavailable
  | _ => .ok backend

/-- The backend that is called for: by the given address, or the first that the surroundings name, or
that of the settings. -/
def choose (given : Option String) (databases : List (Option String)) (settings : Settings)
    (isDirectory : String → Bool) : Except Fault Backend := do
  let address := (given :: databases ++ [settings.databaseUrl]).findSome? given?
  (← ofAddress? address).opened isDirectory

end Backend

end Workflow
