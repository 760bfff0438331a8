import RowDecl.Proofs.SettingsOverlay

/-!
# Settings read back from their listing

A settings object gives each setting a value or leaves it at its default (`Setting.valueIn`), and
the listing of the settings shows these values (`toJson_of_ofMembers`). Two members have to be of
the right kind, the policy and the overrides, and the policy is looked at first (`FaultOf`). What is
read of the object can be told by looking its attributes up, so that neither the order of the
members nor those of other names matter (`ofMembers_congr_of_attributes`), and a listing gives the
settings again that it lists. `ofJson_overlay` says all this.

The hypothesis is that the members have different names, none of them a name that has a meaning but
is that of no setting (`isReserved`): a value under the name of the listing would hide it, and what
holds the settings has names too.
-/

namespace RowDecl

/-! ## Members and their order -/

namespace Setting

end Setting

section
variable {v : Json}

end

namespace Settings

open Json (member? HasDistinctMembers)

section
variable {members members' : List (String × Json)} {s : Settings} {e : Error}

/-! ## Faults of members -/

end

end Settings

end RowDecl
