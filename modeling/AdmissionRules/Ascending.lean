set_option autoImplicit false

/-! # Association lists in ascending order

A map is kept as the list of its entries in ascending order of their keys, so that walking the
list is walking the map in order. Two keys are the same when neither stands before the other. -/

namespace AdmissionRules.Ascending

variable {κ α : Type}

/-- The list with `value` under `key`, replacing an entry of the same key. -/
def insertBy (before : κ → κ → Bool) (key : κ) (value : α) : List (κ × α) → List (κ × α)
  | [] => [(key, value)]
  | (k, v) :: rest =>
    if before key k then (key, value) :: (k, v) :: rest
    else if before k key then (k, v) :: insertBy before key value rest
    else (key, value) :: rest

/-- Texts in the order of their characters' codes, which is also that of their bytes. -/
def textBefore (a b : String) : Bool := decide (a < b)

/-- The list of texts with `value` under `key`. -/
def insert (key : String) (value : α) (entries : List (String × α)) : List (String × α) :=
  insertBy textBefore key value entries

/-- The entries of a list in ascending order; of entries with one key the last one stays. -/
def ofList (entries : List (String × α)) : List (String × α) :=
  entries.foldl (fun acc e => insert e.1 e.2 acc) []

/-- The value under a key. -/
def get? [DecidableEq κ] (key : κ) : List (κ × α) → Option α
  | [] => none
  | (k, v) :: rest => if k = key then some v else get? key rest

/-- The list with the value under `key` changed by `f`, which sees the value if there is one. -/
def alterBy [DecidableEq κ] (before : κ → κ → Bool) (key : κ) (f : Option α → α)
    (entries : List (κ × α)) : List (κ × α) :=
  insertBy before key (f (get? key entries)) entries

/-- The list of texts with the value under `key` changed by `f`. -/
def alter (key : String) (f : Option α → α) (entries : List (String × α)) :
    List (String × α) :=
  alterBy textBefore key f entries

/-- Texts in ascending order without repetition. -/
def set (items : List String) : List String :=
  (ofList (items.map fun s => (s, ()))).map (·.1)

end AdmissionRules.Ascending
