import StreamWatch.Proofs.Stream.Collapsing
import StreamWatch.Proofs.Stream.Links
import StreamWatch.Proofs.Text.Lowercase
import StreamWatch.Proofs.Text.Trimming

/-! The name of a stream on the handshake server. An identifier is trimmed, marked and cut, which
leaves one that is already so as it is. Behind it stand six digits where a password is in use; they
come from the trimmed password and the salt, and the stream has no part in them. -/
namespace StreamWatch

namespace Stream

open Text (Trimmed isBlank trim)

def Refuses (secret : String) : Prop :=
  ∃ word ∈ refusedPasswords, secret.toList.map Char.toLower = word.toList

instance (secret : String) : Decidable (Refuses secret) :=
  inferInstanceAs (Decidable (∃ word ∈ refusedPasswords, _ = _))

def bare (password : Option String) : String := .ofList (trim (password.getD "").toList)

end Stream
end StreamWatch
