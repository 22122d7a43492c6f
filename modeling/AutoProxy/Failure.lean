import AutoProxy.Text.Basic

/-! Failures as they are shown, of a family and with a message. -/
namespace AutoProxy

/-- The families of failures, under the names that details show. Those that are declared elsewhere
come with their name, and with whether they are kinds of a family whose messages are for users. -/
inductive Family where
  | generation
  | download
  | reading
  | decoding
  | writing
  | value
  | run
  | key
  | system
  | address
  | hostname
  | letter
  | context
  | direction
  | operation
  | form
  | overflow
  | other
  | declared (name : Text) (isForUsers : Bool)
  deriving DecidableEq

namespace Family

def name : Family → Text
  | .generation => "GenerationError".toList
  | .download => "FeedDownloadError".toList
  | .reading => "FeedReadError".toList
  | .decoding => "FeedDecodeError".toList
  | .writing => "OutputWriteError".toList
  | .value => "ValueError".toList
  | .run => "RuntimeError".toList
  | .key => "KeyError".toList
  | .system => "OSError".toList
  | .address => "InvalidURL".toList
  | .hostname => "IDNAError".toList
  | .letter => "InvalidCodepoint".toList
  | .context => "InvalidCodepointContext".toList
  | .direction => "IDNABidiError".toList
  | .operation => "AttributeError".toList
  | .form => "TypeError".toList
  | .overflow => "OverflowError".toList
  | .other => "Exception".toList
  | .declared name _ => name

def ofName? (t : Text) : Option Family :=
  [generation, download, reading, decoding, writing, value, run, key, system, address, hostname,
    letter, context, direction, operation, form, overflow, other].find? (·.name = t)

/-- Whether messages of the family are written for users. -/
def isForUsers : Family → Bool
  | .generation | .download | .reading | .decoding | .writing | .value => true
  | .hostname | .letter | .context | .direction => true
  | .declared _ isForUsers => isForUsers
  | _ => false

end Family

structure Failure where
  family : Family
  message : Text
  deriving DecidableEq

end AutoProxy
