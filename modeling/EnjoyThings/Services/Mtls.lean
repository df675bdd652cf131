import Mathlib.Logic.Function.Basic

/-!
# Credentials that rotate

`internal/mtls/mtls.go`: `newRotating` and `current`, which read the certificate, the key
and the CA one after the other while others may write them. The contents of files are any
type `B`. Credentials are represented by the material they are built from. `tls.X509KeyPair`
and `AppendCertsFromPEM` are parameters.
-/

namespace EnjoyThings

namespace Mtls

/-- `material`: the contents of the three files. -/
structure Material (B : Type) where
  cert : B
  key : B
  ca : B
  deriving DecidableEq

inductive File
  | cert
  | key
  | ca
  deriving DecidableEq

def Material.get {B : Type} (m : Material B) : File → B
  | .cert => m.cert
  | .key => m.key
  | .ca => m.ca

/-- What is on disk. A file that cannot be read is `none`. -/
abbrev Disk (B : Type) : Type := File → Option B

/-- Whether `tls.X509KeyPair` and `AppendCertsFromPEM` succeed. -/
structure TlsLib (B : Type) where
  x509KeyPair : B → B → Bool
  appendCertsFromPEM : B → Bool

/-- `parse`, if it succeeds. -/
def TlsLib.parse {B : Type} (lib : TlsLib B) (m : Material B) : Bool :=
  lib.x509KeyPair m.cert m.key && lib.appendCertsFromPEM m.ca

/-- How far `readMaterial` has come. -/
inductive Reading (B : Type)
  | nothing
  | cert (cert : B)
  | pair (cert key : B)

/-- `rotating`: the material of the last load and the credentials that were built then, none
    until `newRotating` has returned, and the call that holds the lock. -/
structure Rotating (B : Type) where
  loaded : Option (Material B × Material B) := none
  reading : Reading B := .nothing

namespace Rotating

variable {B : Type} [DecidableEq B]

/-- The end of a call on what is on disk does not serve: the last good credentials, or the error
    of `newRotating`. -/
def keep (r : Rotating B) : Rotating B × Option (Material B) :=
  ({ r with reading := .nothing }, r.loaded.map (·.2))

/-- The end of a call that has read all three files. -/
def load (lib : TlsLib B) (r : Rotating B) (m : Material B) : Rotating B × Option (Material B) :=
  if r.loaded.map (·.1) = some m then r.keep
  else if lib.parse m then ({ loaded := some (m, m) }, some m)
  else r.keep

/-- The next read of a call, and the credentials if it returns some. -/
def read (lib : TlsLib B) (disk : Disk B) (r : Rotating B) : Rotating B × Option (Material B) :=
  match r.reading with
  | .nothing => (disk .cert).elim r.keep fun cert => ({ r with reading := .cert cert }, none)
  | .cert cert => (disk .key).elim r.keep fun key => ({ r with reading := .pair cert key }, none)
  | .pair cert key => (disk .ca).elim r.keep fun ca => r.load lib ⟨cert, key, ca⟩

/-- `Clone`. -/
def clone (r : Rotating B) : Rotating B :=
  { loaded := r.loaded }

end Rotating

/-- The files, the objects, and what calls have returned, with the states of the files up to
    then. -/
structure World (P B : Type) where
  disk : Disk B
  past : List (Disk B) := [disk]
  objects : P → Rotating B := fun _ => {}
  returned : List (Material B × List (Disk B)) := []

/-- A rotation writes one file, with anything, or all of them at once; an object reads a file;
    an object is cloned. -/
inductive Event (P B : Type)
  | write (file : File) (content : Option B)
  | swap (m : Material B)
  | read (p : P)
  | clone (p copy : P)

/-- The files hold this material. -/
def Disk.ofMaterial {B : Type} (m : Material B) : Disk B :=
  fun file => some (m.get file)

namespace World

variable {P B : Type} [DecidableEq P] [DecidableEq B]

def setDisk (w : World P B) (disk : Disk B) : World P B :=
  { w with disk := disk, past := w.past ++ [disk] }

def step (lib : TlsLib B) (w : World P B) : Event P B → World P B
  | .write file content => w.setDisk (Function.update w.disk file content)
  | .swap m => w.setDisk (.ofMaterial m)
  | .read p =>
    let (object, creds) := (w.objects p).read lib w.disk
    { w with objects := Function.update w.objects p object
             returned := w.returned ++ creds.toList.map fun m => (m, w.past) }
  | .clone p copy =>
    { w with objects := Function.update w.objects copy (w.objects p).clone }

def run (lib : TlsLib B) (w : World P B) (events : List (Event P B)) : World P B :=
  events.foldl (step lib) w

end World

end Mtls

end EnjoyThings
