/-!
# Version

How a build names itself.
-/
namespace Hush

structure Version where
  number : String := "0.1.0"
  branch : String := "unknown"
  commit : String := "unknown"
  profile : String := "release"
  deriving DecidableEq, Repr

/-- The four parts with dashes between them. -/
def Version.text (v : Version) : String :=
  "-".intercalate [v.number, v.branch, v.commit, v.profile]

end Hush
