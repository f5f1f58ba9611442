import Mathlib
import ReplyGateway.Http.Router

namespace ReplyGateway.Http

variable {σ : Type}

end ReplyGateway.Http
