import PtchanGateway.ContractSchemas
import PtchanGateway.Sdk

/-!
The body of a reply, from the caller of the client to the gateway. The gateway reads the members of the body one by
one as they stand in the text; whatever the message, what it reads is what the client was given.
-/

namespace PtchanGateway

open JsonValue JsonText TextGo TextRust

end PtchanGateway
