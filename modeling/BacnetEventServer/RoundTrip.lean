import BacnetEventServer.Kinds
import BacnetEventServer.Recovery

namespace BacnetEventServer

namespace PresentValue

end PresentValue

end BacnetEventServer
