-- What lies below the working directory: every entry with its path from
-- there, each directory before what is in it, names in byte order.
import NodeSettings.Files.Disk

namespace NodeSettings.Files

/-- The entries below the working directory, their paths relative to it. -/
def Disk.listing (d : Disk) : List (String × Entry) :=
  d.entries.filterMap fun (l, e) =>
    match d.working.isPrefixOf l, l.drop d.working.length with
    | true, name :: names => some ("/".intercalate (name :: names), e)
    | _, _ => none

/-- One line for an entry: directories end in a slash, files show their size, links their target. -/
def describeEntry (path : String) : Entry → String
  | .directory => path ++ "/"
  | .file content => path ++ " " ++ toString content.size
  | .link target => path ++ " -> " ++ target
  | .device .null => path ++ " (null)"
  | .device .full => path ++ " (full)"

def Disk.describe (d : Disk) : List String := d.listing.map fun (path, e) => describeEntry path e

end NodeSettings.Files
