import FieldOcr.Run.Journal
import FieldOcr.Text.Utf8
import FieldOcr.Url.Percent

/-!
# The transport without a peer

Where nothing answers, a request to an address of the web fails because no
connection can be made, and any other request fails before that.  Neither
failure shows the account that an address carries.
-/

namespace FieldOcr
namespace Run

/-- Whether a part of an address stands for a text. -/
def isReadablePart (part : List Char) : Bool :=
  Text.Utf8.isValid (Url.percentDecode (Text.Utf8.encode part))

/-- An address as failures show it.  An account that stands for no text stays
where it is. -/
def shownAddress (url : Url) : Url :=
  let password := (url.password.map isReadablePart).getD false
  if isReadablePart url.username && (!url.username.isEmpty || password) then
    url.withoutUserinfo
  else url

/-- What comes of a request that nothing answers. -/
def unansweredOutcome (url : Url) : Http.Outcome :=
  let shown := (shownAddress url).render
  if url.isWeb then
    .noConnection s!"error sending request for url ({shown})"
  else .failed s!"builder error for url ({shown})"

/-- The transport without a peer. -/
def unreachable : Transport := fun _ request =>
  ⟨0, unansweredOutcome request.url⟩

end Run
end FieldOcr
