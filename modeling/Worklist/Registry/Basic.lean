import Worklist.Pattern.Match
import Worklist.Pattern.Reader
import Worklist.Registry.HostPattern

/-!
# The registry of known links

Patterns of links are kept under names, in an order that means nothing. Whatever is asked of all of
them is asked in the order of their names, so that the order in which patterns were registered never
shows. Registrations come one after the other: nothing else changes the registry meanwhile.
-/

namespace Worklist

/-- A pattern with the name that it was registered under. -/
structure KnownUrl where
  name : String
  pattern : Pattern
  deriving DecidableEq

/-- Patterns under names. -/
structure HostRegistry where
  /-- What stands under each name. -/
  entries : List (String × KnownUrl)
  /-- No name comes twice. -/
  nodup : (entries.map (·.1)).Nodup
  deriving DecidableEq

/-- What can be wrong with a registration. -/
inductive RegistryError where
  /-- The pattern is not one. The reason is left out: only a message would show it. -/
  | invalidPattern (name : String)
  /-- The host has no name. -/
  | emptyHost
  deriving DecidableEq

/-- The text of an error. That of a text that is not a pattern would go on with the reason, which
`Pattern.parse?` does not give. -/
def RegistryError.message : RegistryError → String
  | .invalidPattern name => "invalid URL pattern for '" ++ name ++ "'"
  | .emptyHost => "host name is empty"

/-- A text that a pattern matches. -/
structure UrlMatch where
  /-- The name of the pattern. -/
  name : String
  /-- The texts that the pattern keeps. -/
  captures : List (String × String)
  deriving DecidableEq

/-- What a pattern keeps of a text, if it matches. -/
def KnownUrl.match? (known : KnownUrl) (text : List Char) : Option UrlMatch :=
  (known.pattern.search text).map fun kept =>
    ⟨known.name, kept.map fun (name, cs) => (name, String.ofList cs)⟩

/-- The text kept under a name. -/
def UrlMatch.capture? (m : UrlMatch) (name : String) : Option String :=
  m.captures.lookup name

namespace HostRegistry

/-- The registry without patterns. -/
def empty : HostRegistry :=
  ⟨[], .nil⟩

/-- The pattern under a name. -/
def lookup (r : HostRegistry) (name : String) : Option KnownUrl :=
  r.entries.lookup name

/-- The names, in order. -/
def names (r : HostRegistry) : List String :=
  (r.entries.map (·.1)).mergeSort fun a b => decide (a ≤ b)

/-- The patterns, in the order of their names. -/
def known (r : HostRegistry) : List KnownUrl :=
  (r.entries.map (·.2)).mergeSort fun a b => decide (a.name ≤ b.name)

/-- The number of patterns. -/
def size (r : HostRegistry) : Nat :=
  r.entries.length

/-- Whether there is no pattern. -/
def isEmpty (r : HostRegistry) : Bool :=
  r.entries.isEmpty

/-- Keeps a pattern under a name, instead of one that is there. -/
def insert (r : HostRegistry) (name : String) (known : KnownUrl) : HostRegistry where
  entries := (name, known) :: r.entries.filter (·.1 ≠ name)
  nodup := by
    refine List.nodup_cons.mpr ⟨?_, r.nodup.sublist (List.filter_sublist.map _)⟩
    intro hName
    obtain ⟨entry, hMem, hEntry⟩ := List.mem_map.mp hName
    exact of_decide_eq_true (List.mem_filter.mp hMem).2 hEntry

/-- The pattern that a text is, under a name. -/
def compile (name pattern : String) : Except RegistryError KnownUrl :=
  match Pattern.parse? pattern with
  | some p => .ok ⟨name, p⟩
  | none => .error (.invalidPattern name)

/-- Registers a pattern under a name, instead of one that is there. Like every call that may fail,
this gives the registry as it is left. -/
def register (r : HostRegistry) (name pattern : String) :
    Except RegistryError Unit × HostRegistry :=
  match compile name pattern with
  | .ok known => (.ok (), r.insert name known)
  | .error e => (.error e, r)

/-- Registers a pattern under a name unless the name is taken. Tells whether it was registered. -/
def registerIfAbsent (r : HostRegistry) (name pattern : String) :
    Except RegistryError Bool × HostRegistry :=
  match r.lookup name with
  | some _ => (.ok false, r)
  | none =>
    match compile name pattern with
    | .ok known => (.ok true, r.insert name known)
    | .error e => (.error e, r)

/-- A text without the slashes at its end. -/
def withoutSlashes (cs : List Char) : List Char :=
  (cs.reverse.dropWhile (· == '/')).reverse

/-- A host without blanks around it and slashes at its end. -/
def normalizeHost (host : String) : List Char :=
  withoutSlashes (Text.trim host.toList)

/-- The name under which the links of a host are registered. -/
def patternName (host : String) : String :=
  host ++ "/work-item"

/-- Registers the links of a host unless they are known. Tells whether they were not. -/
def registerHost (r : HostRegistry) (host : String) : Except RegistryError Bool × HostRegistry :=
  match normalizeHost host with
  | [] => (.error .emptyHost, r)
  | cs => r.registerIfAbsent (patternName (String.ofList cs)) (Pattern.hostText cs)

/-- Matches a text against the patterns in the order of their names. -/
def matchUrl (r : HostRegistry) (text : String) : Option UrlMatch :=
  r.known.findSome? (·.match? (Text.trim text.toList))

end HostRegistry

end Worklist
