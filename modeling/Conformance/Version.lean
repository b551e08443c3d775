/-! The version of the engine. -/

namespace Conformance

def engineVersion : String := "0.1.0"

end Conformance
