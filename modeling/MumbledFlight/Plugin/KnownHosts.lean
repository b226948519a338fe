/-
The trust-on-first-use store (`known_hosts.rs`): the key a server is filed under and the pins in memory. A failed write
leaves them as they are; the file next to the configuration has a module of its own.

`lookup_insertAndSave`: recording a pin changes that key and no other.
-/
import Mathlib.Data.List.DropRight
import MumbledFlight.Lib.HashMap

namespace MumbledFlight

/-- `char::is_whitespace` -/
def isWhiteSpace (c : Char) : Bool :=
  (0x09 ≤ c.toNat && c.toNat ≤ 0x0D) || c.toNat = 0x20 || c.toNat = 0x85 || c.toNat = 0xA0 || c.toNat = 0x1680 ||
    (0x2000 ≤ c.toNat && c.toNat ≤ 0x200A) || c.toNat = 0x2028 || c.toNat = 0x2029 || c.toNat = 0x202F ||
    c.toNat = 0x205F || c.toNat = 0x3000

/-- `str::trim_matches` -/
def trimMatches (p : Char → Bool) (s : String) : String := String.ofList ((s.toList.dropWhile p).rdropWhile p)

/-- `str::trim` -/
def trim (s : String) : String := trimMatches isWhiteSpace s

/-- `s.trim().is_empty()` -/
def Blank (s : String) : Prop := trim s = ""

instance (s : String) : Decidable (Blank s) := inferInstanceAs (Decidable (_ = _))

namespace KnownHosts

/-- the key of a server; an IPv6 address is bracketed whether or not it was typed so -/
def key (host : String) (port : UInt16) : String :=
  let h := trimMatches (fun c => c = '[' || c = ']') (trim host)
  if h.toList.contains ':' then "[" ++ h ++ "]:" ++ toString port.toNat else h ++ ":" ++ toString port.toNat

end KnownHosts

/-- the pinned certificates, in PEM form, by server key -/
abbrev KnownHosts := HashMap String String

def KnownHosts.insertAndSave (hosts : KnownHosts) (key pem : String) : KnownHosts := hosts.insert key pem

theorem KnownHosts.lookup_insertAndSave (hosts : KnownHosts) (key key' pem : String) :
    (hosts.insertAndSave key pem).lookup key' = if key' = key then some pem else hosts.lookup key' :=
  HashMap.lookup_insert_of _ _ _ _

/-- a server is pinned -/
def KnownHosts.Pinned (hosts : KnownHosts) (key : String) : Prop := ∃ pem, hosts.lookup key = some pem

theorem KnownHosts.pinned_insertAndSave (hosts : KnownHosts) (key key' pem : String) :
    (hosts.insertAndSave key pem).Pinned key' ↔ key' = key ∨ hosts.Pinned key' := by
  unfold Pinned
  rw [lookup_insertAndSave]
  split_ifs with h
  · simp [h]
  · simp [h]

example : KnownHosts.key "  [::1]  " 64738 = "[::1]:64738" := by decide

end MumbledFlight
