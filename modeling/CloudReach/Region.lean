import CloudReach.Assoc
import CloudReach.Text.Blank
import CloudReach.Url.Basic

/-!
# Regions and zones

Where a provider runs: regions, the availability zones inside them, and the families of services
that each have endpoints of their own. Identifiers are open, since a provider may report more than
the ones known here; only blank ones are refused, where tables and maps are built.
-/

namespace CloudReach

structure Region where
  id : String
deriving DecidableEq

namespace Region

def known : List String :=
  ["us-east-1", "us-west-1", "eu-west-1", "ap-southeast-1"]

def isKnown (r : Region) : Bool :=
  known.contains r.id

def isBlank (r : Region) : Bool :=
  Text.isBlank r.id

end Region

structure Zone where
  id : String
deriving DecidableEq

def Zone.isBlank (z : Zone) : Bool :=
  Text.isBlank z.id

structure ZoneInfo where
  zone : Zone
  region : Region
  state : String
deriving DecidableEq

def ZoneInfo.available (zone : Zone) (region : Region) : ZoneInfo :=
  { zone, region, state := "available" }

inductive ServiceFamily
  | compute
  | loadBalancer
deriving DecidableEq

def ServiceFamily.text : ServiceFamily → String
  | compute => "compute"
  | loadBalancer => "load_balancer"

abbrev RegionMap := Assoc Region Url

abbrev ZoneMap := Assoc Zone Region

end CloudReach
