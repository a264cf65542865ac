import SnippetLanguage.Http.Framework
import SnippetLanguage.Pattern.Basic
import SnippetLanguage.Pattern.Sweep

/-!
# Compression

Bodies of some size are compressed for clients that understand it. Whether a response is compressed depends on a header
of the request, and a response that is large enough says so. A page is always large enough.
-/

namespace SnippetLanguage.Http.Standard

/-- Whether a body has at least a number of bytes. -/
def reaches (minimum : Nat) : Body → Bool
  | .json v => minimum ≤ v.render.utf8ByteSize
  | .text s => minimum ≤ s.utf8ByteSize
  | .page _ => true
  | .nothing => minimum = 0

/-- Whether a text holds another one. -/
def holdsText (part : String) (s : String) : Bool := (Pattern.exactText part).isIn s.toList

/-- Whether the client understands compressed bodies. -/
def acceptsGzip (head : Head) : Bool := holdsText "gzip" ((head.header? "accept-encoding").getD "")

/-- A response as it goes to a client that may or may not understand compressed bodies. -/
def compress (minimum : Nat) (head : Head) (r : Response) : Response :=
  if reaches minimum r.body then
    (if acceptsGzip head then r.setHeader "content-encoding" "gzip" else r).vary "Accept-Encoding"
  else r

end SnippetLanguage.Http.Standard
