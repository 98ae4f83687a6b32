import RemoteCall.Settings.Sources

/-!
# Shared settings

The settings that all parts of a program share are made when they are first asked for and kept from then on, until they
are replaced or reset. Settings that cannot be made are not kept. Each settings object has a number, which shows
whether two requests got the same one.
-/

namespace RemoteCall

structure SharedSettings where
  kept : Option (Settings × Nat)
  environment : List (String × String)
  /-- A number that no settings object has yet. -/
  fresh : Nat

namespace SharedSettings

/-- No settings are kept yet. -/
def start (environment : List (String × String)) : SharedSettings := ⟨none, environment, 0⟩

def setVariable (s : SharedSettings) (name value : String) : SharedSettings :=
  { s with environment := Ordered.insert name value s.environment }

/-- The settings that keywords and the environment describe now. -/
def build (s : SharedSettings) (keywords : List (String × Json)) : Except SettingsFault Settings :=
  SettingSources.settings ⟨keywords, s.environment, none⟩

/-- Settings made from keywords are kept in place of those kept so far; without keywords nothing is kept. -/
def replace (s : SharedSettings) (keywords : Option (List (String × Json))) : Except SettingsFault SharedSettings :=
  match keywords with
  | none => .ok { s with kept := none }
  | some keywords => return { s with kept := some (← s.build keywords, s.fresh), fresh := s.fresh + 1 }

/-- The kept settings with their number, made first if there are none. -/
def get (s : SharedSettings) : Except SettingsFault (SharedSettings × Settings × Nat) :=
  match s.kept with
  | some (settings, number) => .ok (s, settings, number)
  | none => do
    let settings ← s.build []
    return ({ s with kept := some (settings, s.fresh), fresh := s.fresh + 1 }, settings, s.fresh)

end SharedSettings

end RemoteCall
