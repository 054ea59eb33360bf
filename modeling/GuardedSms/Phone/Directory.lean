import GuardedSms.Phone.Plans

/-!
# Directories

A directory tells how numbers are dialled in regions and whose plan a number with a country code
follows. It need not have the homes of all regions, nor the plans of all country codes. In a region
without a home a number is read as in none, and a number of a code without plans is not valid: what
is said there follows from what is missing and not from how numbers are dialled.

## Main definitions

* `Directory.home?`: how numbers are dialled in a region.
* `Directory.owner?`: the plan that a number follows.
* `Directory.covers`: whether the plans of a country code are there.
* `Directory.listed`: the directory of the plans that are listed here.
-/
namespace GuardedSms.Phone

/-- Whether a text is the identifier of a region. -/
def isRegion (s : String) : Bool := regionIds.contains s

def isCountryCode (code : Nat) : Bool := countryCodes.contains code

structure Directory where
  homes : List Home
  /-- All plans of a country code or none. They stand in the order in which they are asked whose a
  number is. -/
  plans : List Plan

namespace Directory

def home? (dir : Directory) (region : String) : Option Home := dir.homes.find? (·.region == region)

def covers (dir : Directory) (code : Nat) : Bool := dir.plans.any (·.code == code)

/-- The plan of a number with a country code. A plan that has the code to itself has all its
numbers; of plans that share a code the first to claim the number has it. -/
def owner? (dir : Directory) (code : Nat) (n : List Digit) : Option Plan :=
  match dir.plans.filter (·.code == code) with
  | [p] => some p
  | ps => ps.find? (·.claims n)

/-- The listed plans, the homes of their regions, and one home more. -/
def listed : Directory where
  homes := Home.unitedStates :: Plan.all.map Plan.toHome
  plans := Plan.all

end Directory

end GuardedSms.Phone
