import Flowline.Binary64.Shortest
import Flowline.Binary64.Reading
import Flowline.Number.Basic
import Flowline.Text.Ranges

set_option autoImplicit false

namespace Flowline.Number

-- Numbers of up to sixteen places before the point and down to five after it are written out; others
-- have a power of ten.
def plain : Binary64.Layout := ⟨some (-4), some 16, .even⟩

def full : Binary64.Layout := ⟨none, none, .up⟩

def text (n : Number) : String := Binary64.write plain n.bits

def fullText (n : Number) : String := Binary64.write full n.bits

def parse? (text : String) : Option Number := (Binary64.read? (Text.trim text.toList)).bind ofBits?

end Flowline.Number
