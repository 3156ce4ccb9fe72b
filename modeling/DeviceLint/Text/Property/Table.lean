/-
The binary properties of Unicode 15.

Each property is given by its names, in lower case without separators, and by the ranges
of code points that have it.  A range is written as the distance from the end of the one
before it and, after a colon, how many more code points follow its first; both are
hexadecimal, and the colon is left out where there are no more.
-/

namespace DeviceLint.Text.Property

/-- Names and ranges of the properties. -/
def table : List (List String × String) := [
  (["alpha", "alphabetic"],
    String.join ["41:19,6:19,2f,a,4,5:16,1:1e,1:1c9,4:b,e:4,7,1,56,2a:4,1:1,2:3,1,6,1:2,1,1:13,1:52,1:8a,8:a5,",
      "1:25,2,6:28,27:d,1,1:1,1:1,1,8:1a,4:3,1d:a,5:37,1:6,e:65,1:7,4:7,4:2,a:2,2,10:2f,d:64,18:20,",
      "9:1,4,5:17,2:12,13:18,7:a,5:17,1:5,11:29,a:b,3:6,6:4b,1:f,1:2,4:e,d:12,1:7,2:1,2:15,1:6,1,3:",
      "3,3:7,2:1,2:1,1,8,4:1,1:4,c:1,a,4:2,1:5,4:1,2:15,1:6,1:1,1:1,1:1,4:4,4:1,2:1,4,7:3,1,11:5,b:",
      "2,1:8,1:2,1:15,1:6,1:1,1:4,3:8,1:2,1:1,3,f:3,15:3,4:2,1:7,2:1,2:15,1:6,1:1,1:4,3:7,2:1,2:1,9",
      ":1,4:1,1:4,d,10:1,1:5,3:2,1:3,3:1,1,1:1,3:1,3:2,3:b,4:4,3:2,1:2,3,6,28:c,1:2,1:16,1:f,3:7,1:",
      "2,1:2,8:1,1:2,2,2:3,1c:3,1:7,1:2,1:16,1:9,1:4,3:7,1:2,1:2,8:1,6:1,1:3,d:2,c:c,1:2,1:28,2:7,1",
      ":2,1:2,1,5:3,7:4,16:5,1:2,1:11,3:17,1:8,1,2:6,8:5,1,1:7,12:1,d:39,5:6,6,33:1,1,1:4,1:17,1,1:",
      "12,1:2,2:4,1,6,e:3,20,3f:7,1:23,4:12,4:f,1:23,43:36,1,2:4,10:3f,a:3,2:25,1,5,2:2a,1:14c,1:3,",
      "2:6,1,1:3,2:28,1:3,2:20,1:3,2:6,1,1:3,2:e,1:38,1:3,2:42,25:f,10:55,2:5,3:26b,2:10,1:19,5:4a,",
      "3:a,7:13,b:14,c:13,c:c,1:2,1:1,c:33,2:12,e,4,43:58,7:2a,5:45,a:1e,1:b,4:8,17:1d,2:4,b:2b,4:1",
      "9,36:1b,4:3e,2:13,32,17:1,b:2,31:33,1:e,1:7,33:29,2:3,a:2b,1:a,e:36,16:2,a:23,2:8,7:2a,2:2,2",
      "9:3,1:5,1:1,3,5:bf,27:d,b:115,2:5,2:25,2:5,2:7,1,1,1,1:1e,2:34,1:6,1,3:2,1:6,3:3,2:5,4:c,5:2",
      ",1:6,74,d,10:c,65,4,2:9,1,3:4,6,1,1,1:3,1:a,2:3,5:4,4,11:28,32d:33,716:e4,6:3,3:1,c:25,1,5,2",
      ":37,7,10:16,9:6,1:6,1:6,1:6,1:6,1:6,1:6,1:6,1:1f,2f,1d5:2,19:8,7:4,2:4,4:55,6:2,1:59,1:3,5:2",
      "a,1:5d,11:1f,30:f,200:19bf,40:568c,43:2d,2:10c,3:f,a:1,14:2e,5:7,3:70,27:8,2:66,2:3f,5:1,1,1",
      ":4,18:13,1:20,18:33,c:43,1,2c:5,3,1:2,a:20,5:22,d:1c,3:32,1:b,f,10:f,a:4,1:36,9:d,12:16,3:44",
      ",1,1,18:2,2:f,2:3,b:5,2:5,2:5,9:6,1:6,1:2a,1:d,6:7a,15:2ba3,c:16,4:30,2104:16d,2:69,26:6,c:4",
      ",5:b,1:c,1:4,1,1:1,1:1,1:6b,21:16a,12:3f,2:35,28:b,74:4,1:86,24:19,6:19,b:58,3:5,2:5,2:5,2:2",
      ",23:b,1:19,1:12,1:1,1:e,2:d,22:7a,45:34,10b:1c,3:30,2f:1f,d:1d,5:2a,5:1d,2:23,4:7,1:4,2a:9d,",
      "12:23,4:23,4:27,8:33,c:a,1:e,1:6,1:1,1:a,1:e,1:6,1:1,43:136,9:15,a:7,18:5,1:29,1:8,45:5,2,1:",
      "2b,1:1,3,2:16,a:16,9:1e,41:12,1:1,a:15,a:19,46:37,6:1,40:3,1:1,5:7,1:2,1:1c,2a:1c,3:1c,23:7,",
      "1:1b,1b:35,a:15,a:12,d:11,6e:48,37:32,d:32,d:27,158:29,1:1,3:1,4e:1c,a,8:15,2a:11,2e:14,1b:1",
      "6,9:45,2b:4,a:38,9,d:18,17:32,11:3,8:22,3,9:3f,1:3,9:1,a,1,23:11,1:21,2,6:3,3e:6,1,1:3,1:e,1",
      ":9,7:38,17:3,1:7,2:1,2:15,1:6,1:1,1:4,3:7,2:1,2:1,3,6,5:6,9c:41,1:2,1:3,14:2,1e:41,2:1,1,b8:",
      "35,2:6,19:5,22:3e,1,3,3b:35,2,47:1a,2:d,15:6,b9:38,67:3f,1f:7,2,2:7,1:1,1:1d,1:1,2:1,2:3,5d:",
      "7,2:2d,2:5,1,1:1,1b:32,2:9,11:47,5,12:48,107:8,1:2c,1:6,1,31:1d,2:15,1:d,49:6,1:1,1:2b,3,1:1",
      ",1:2,1,2:1,18:5,1:1,1:24,1:1,1:3,1,147:16,9:10,1:28,3:2,6f,4f:399,66:6e,11:c3,a4c:60,f:42f,1",
      "1:5,fb9:246,21b9:238,7:1e,11:4e,11:1d,12:2f,10:3,1f:14,5:12,2b0:3f,80:4a,4:38,7:10,40:1,1,c:",
      "1,e:17f7,8:4d5,2a:8,22e7:3,1:6,1:1,1:122,f,1d:2,2,e:3,8:18b,904:6a,5:c,3:8,7:9,4,1761:54,1:4",
      "6,1:1,2,2:1,2:3,1:b,1,1:6,1:40,1:3,2:7,1:6,1:1b,1:3,1:4,1,3:6,1:153,2:18,1:18,1:1e,1:18,1:1e",
      ",1:18,1:1e,1:18,1:1e,1:18,1:7,734:1e,6:5,d5:6,1:10,2:6,1:1,1:4,5:3d,21,70:2c,a:6,10,141:1d,1",
      "2:2b,1e4:1b,2f4:6,1:3,1:1,1:e,1:c4,3b:43,3,3,4b4:3,1:1a,1:1,1,2,1:9,1:3,1,1,6,4,1,1,1:2,1:1,",
      "1,2,1,1,1,1,1:1,1,2:3,1:6,1:3,1:3,1,1:9,1:10,5:2,1:4,1:10,274:19,6:19,6:19,e76:a6df,20:1039,",
      "6:dd,2:1681,e:1d30,c1f:21d,5e2:134a,5:105f"]),
  (["ahex", "asciihexdigit"],
    String.join ["30:9,7:5,1a:5"]),
  (["bidic", "bidicontrol"],
    String.join ["61c,19f1:1,1a:4,37:3"]),
  (["bidim", "bidimirrored"],
    String.join ["28:1,12,1,1c,1,1d,1,2d,f,e7e:3,75d:1,99c:1,a:1,36:1,e:1,b1,c0:3,3:5,3,3:1,3:3,1:3,1,1,4:8,5,",
      "1:11,5:3,9:1,1,1:7,2:1e,2:3,5,9:1,2:12,5:1,9:4,2:1,4:17,2:f,8:3,14:1,7:1,43d:d,4a,2:3,1:1,1:",
      "2,5:3,5:2,3:d,193:15,2:5,1:d,8,7:5,3,4:4,1:1,2:4,4,1:2,2:1,a:5,2:1,c:12,1:3,2,1,2,1:3,5:1,6:",
      "2,18:1,b:1,4:3,1:1,2:1,4:2a,2:7,1:27,5,1,3:4,5:2,4,3:4,1,100,203:3,3:1,1:1,e:1,2:9,2b:7,1ab:",
      "9,2:7,ce3d:5,5:1,a2:1,12,1,1c,1,1d,1,1:1,1:1,d777,39,39,39,39"]),
  (["caseignorable", "ci"],
    String.join ["27,6,b,23,1,47,4,1,4,2:1,1f7:bf,4:1,4,9:1,1,fb:6,cf,5,31:2c,1,1:1,1:1,1,2c,b:5,a:a,1,23,a:14",
      ",10,65:7,1:9,1:3,21,1,1e:1a,5b:a,3a:a,4,2,18:17,2b:2,2c,7:1,6:7,29:39,37,1,4:7,4,3:6,a:1,d,f",
      ",3a,4:3,8,14:1,1a,2:1,39,4:1,4:1,2:2,3,1e:1,3,b:1,39,4:4,1:1,4,14:1,16:5,1,3a,2,1:3,8,7:1,b:",
      "1,1e,3d,c,32,3,37,1:2,5:2,1:3,7:1,b:1,1d,3a,2,6,5:1,14:1,1c:1,39:1,4:3,8,14:1,1d,48,7:2,1,5a",
      ",2:6,b:8,62,2:8,9,1:6,49:1,1b,1,1,37:d,1:4,1:1,5:a,1:23,9,66:3,1:5,1:1,2:1,19:1,4:2,10:3,d,2",
      ":1,6,f,5e,260:2,3b2:2,1d:1,1e:1,1e:1,40:1,1:6,8,2:a,3,5,2d:4,33,41:1,22,76:2,4:1,9,6:2,db:1,",
      "2,3a,1:6,1,1,2:7,6:9,2,27,8:1e,31:3,30,1:4,1,5,28:8,c:1,20:3,2:1,1:2,38,1:1,3,1:2,3a:7,2:1,4",
      "0:5,52:2,1:c,1:6,4,6,3:1,32:3e,d,22:64,1bd,1:2,b:2,d:2,d:2,d:1,c:4,8:1,a,2,2:4,31:4,1:9,1,d,",
      "10:c,33:20,b8b:1,71:2,7d,f,60:1f,2f,1d5,24:3,3:4,5,5d:5,5d:2,6f16,4e2:5,10e,62:3,1:9,1,1c:3,",
      "50:1,e:21,4e,17:2,67:2,3:1,8,3,4,19:1,5,97:1,1a:11,d,26:7,19:a,2e:2,30,2:3,2:1,11,15:1,42:5,",
      "2:1,2:1,c,8,23,b,33,1:2,2:1,5:1,1,1b,e:1,5:1,1,64:4,9:2,79,2,4,4f30,93:10,23d:f,3,c:f,22,2,a",
      "9,7,6,b,23,1,2f,2d:1,43,15:2,201,e2,95:4,405:5,1:29,1:8,246:2,1:1,5:3,28:2,4,a5:1,23d:3,183:",
      "1,50:2,46:a,31:3,7b,36:e,29,2:1,a:2,31:3,2:1,2,4,a,32:2,24:4,1:7,3e,c:1,34:8,a:3,2,5f:2,2,1:",
      "1,6,2,9d,3:7,15:1,39:1,3,25:6,3:4,c3:7,2:2,1,17,54:5,1,4:1,1:1,ee:3,6:1,1:1,1b:1,55:7,2,1:1,",
      "6a,1,2:5,1,65:2,2:3,1:4,103:8,1:1,100:1,1,4,90:3,2:1,4,20:9,28:5,2:3,8,9:5,2:2,2e:c,1:1,196:",
      "6,1:5,1,52:15,2:6,1:1,1:1,7a:5,3,1:1,1:6,1,48:1,3,1,15b:1,b:1,34:4,5,1,14ed:10,6:e,369a:4,3b",
      ":6,9:3,40b,3f:10,40:1,1:1,400b:3,1:6,1:1,c9e:1,1:3,125c:2d,2:16,220:2,9:f,2:6,1e:3,94:2,7bb:",
      "36,4:31,8,e,16:4,1:e,550:6,1:10,2:6,1:1,1:4,5:3d,21,a0:d,170,3d:3,1fb:4,3e0:6,6d:7,aaf:4,c0c",
      "01,1e:5f,80:ef"]),
  (["cased"],
    String.join ["41:19,6:19,2f,a,4,5:16,1:1e,1:c2,1:3,4:cf,1:23,7:1,1e:4,60,2a:3,2:1,2:3,1,6,1:2,1,1:13,1:52,",
      "1:8a,8:a5,1:25,9:28,b17:25,1,5,2:2a,1:3,2a0:55,2:5,882:8,7:2a,2:2,40:bf,40:115,2:5,2:25,2:5,",
      "2:7,1,1,1,1:1e,2:34,1:6,1,3:2,1:6,3:3,2:5,4:c,5:2,1:6,74,d,10:c,65,4,2:9,1,3:4,6,1,1,1:3,1:5",
      ",4,2:3,5:4,4,11:1f,3:1,331:33,716:e4,6:3,3:1,c:25,1,5,7912:2d,12:1d,84:65,3:3,1:3a,5:1,1,1:4",
      ",18:4,1:2,335:2a,1:d,6:4f,4f40:6,c:4,409:19,6:19,4a5:4f,60:23,4:23,74:a,1:e,1:6,1:1,1:a,1:e,",
      "1:6,1:1,1c3,2:2,1:29,1:8,4c5:32,d:32,bad:3f,5560:3f,6580:54,1:46,1:1,2,2:1,2:3,1:b,1,1:6,1:4",
      "0,1:3,2:7,1:6,1:1b,1:3,1:4,1,3:6,1:153,2:18,1:18,1:1e,1:18,1:1e,1:18,1:1e,1:18,1:1e,1:18,1:7",
      ",734:9,1:13,6:5,105:3d,892:43,7ec:19,6:19,6:19"]),
  (["changeswhencasefolded", "cwcf"],
    String.join ["41:19,5a,a:16,1:7,20,1,1,1,1,1,1,1,1,1,1,1,1,1,1,1,1,1,1,1,1,1,1,1,1,1,1,1,2,1,1,1,1,1,1,1,1",
      ":1,1,1,1,1,1,1,1,1,1,1,1,1,1,1,1,1,1,1,1,1,1,1,1:1,1,1,1,1:1,1,1:1,1:2,2:3,1:1,1:2,3:1,1:1,1",
      ",1,1:1,1,2,1:1,1:2,1,1:1,3,7:1,1:1,1:1,1,1,1,1,1,1,1,1,2,1,1,1,1,1,1,1,1,2:1,1,1:2,1,1,1,1,1",
      ",1,1,1,1,1,1,1,1,1,1,1,1,1,1,1,1,1,1,1,1,1,1,1,1,7:1,1:1,2,1:3,1,1,1,1,f6,2a,1,3,8,6,1:2,1,1",
      ":1,1:10,1:8,16,c:2,3:1,1,1,1,1,1,1,1,1,1,1,1,1,1:1,2:1,1,1:1,2:32,30,1,1,1,1,1,1,1,1,1,1,1,1",
      ",1,1,1,1,9,1,1,1,1,1,1,1,1,1,1,1,1,1,1,1,1,1,1,1,1,1,1,1,1,1,1,1:1,1,1,1,1,1,1,2,1,1,1,1,1,1",
      ",1,1,1,1,1,1,1,1,1,1,1,1,1,1,1,1,1,1,1,1,1,1,1,1,1,1,1,1,1,1,1,1,1,1,1,1,1,1,1,1,1,2:25,30,b",
      "18:25,1,5,32a:5,882:8,7:2a,2:2,140,1,1,1,1,1,1,1,1,1,1,1,1,1,1,1,1,1,1,1,1,1,1,1,1,1,1,1,1,1",
      ",1,1,1,1,1,1,1,1,1,1,1,1,1,1,1,1,1,1,1,1,1,1,1,1,1,1,1,1,1,1,1,1,1,1,1,1,1,1,1,1,1,1,1,1,1,5",
      ":1,2,1,1,1,1,1,1,1,1,1,1,1,1,1,1,1,1,1,1,1,1,1,1,1,1,1,1,1,1,1,1,1,1,1,1,1,1,1,1,1,1,1,1,1,1",
      ",1,1,1,1,9:7,8:5,a:7,8:7,8:5,b,1,1,1,8:7,10:2f,2:2,2:5,5:2,2:5,b:3,c:4,5:2,2:5,129,3:1,6,2d:",
      "f,13,332:19,730:2f,30,1:2,2,1,1,1:3,1,2,8:2,1,1,1,1,1,1,1,1,1,1,1,1,1,1,1,1,1,1,1,1,1,1,1,1,",
      "1,1,1,1,1,1,1,1,1,1,1,1,1,1,1,1,1,1,1,1,1,1,1,1,1,8,1,4,794d,1,1,1,1,1,1,1,1,1,1,1,1,1,1,1,1",
      ",1,1,1,1,1,1,13,1,1,1,1,1,1,1,1,1,1,1,1,1,87,1,1,1,1,1,1,3,1,1,1,1,1,1,1,1,1,1,1,1,1,1,1,1,1",
      ",1,1,1,1,1,1,1,1,1,1,1,1,1,a,1,1:1,1,1,1,1,4,1,2,1,3,1,1,1,1,1,1,1,1,1,1:4,1:4,1,1,1,1,1,1,1",
      ",1:3,1,6,5,1,1c,37a:4f,4f40:6,c:4,409:19,4c5:27,88:23,9c:a,1:e,1:6,1:1,6ea:32,bed:1f,5580:1f",
      ",7aa0:21"]),
  (["changeswhencasemapped", "cwcm"],
    String.join ["41:19,6:19,3a,a:16,1:1e,1:3f,1:53,1:c,1:d,2:d,2:1,1,4:5c,1:11,6:1a,1:1,1,1:1,3:1,1,1:1,1:4,2",
      ",1:1,2,7,2,1:1,3:5,5,a:1,a6,2a:3,2:1,3:2,1,6,1:2,1,1:13,1:2e,3:20,1:4,1:84,8:a5,1:25,a:26,b1",
      "8:25,1,5,2:2a,2:2,2a0:55,2:5,882:8,7:2a,2:2,b9,3,10,71:9b,2,1:75,2:5,2:25,2:5,2:7,1,1,1,1:1e",
      ",2:34,1:6,1,3:2,1:6,3:3,2:5,4:c,5:2,1:6,129,3:1,6,1b,11:1f,3:1,331:33,716:70,1:1,1:1,7:65,7:",
      "3,3:1,c:25,1,5,7912:2d,12:1b,86:d,2:3d,9:e,3:2,2:4,1:18,1:1a,5:1,4:3,1b:1,35c,1c:4f,4f40:6,c",
      ":4,409:19,6:19,4a5:4f,60:23,4:23,74:a,1:e,1:6,1:1,1:a,1:e,1:6,1:1,6c3:32,d:32,bad:3f,5560:3f",
      ",7a80:43"]),
  (["changeswhenlowercased", "cwl"],
    String.join ["41:19,65:16,1:6,21,1,1,1,1,1,1,1,1,1,1,1,1,1,1,1,1,1,1,1,1,1,1,1,1,1,1,1,2,1,1,1,1,1,1,1,2,1",
      ",1,1,1,1,1,1,1,1,1,1,1,1,1,1,1,1,1,1,1,1,1,1:1,1,1,3:1,1,1:1,1:2,2:3,1:1,1:2,3:1,1:1,1,1,1:1",
      ",1,2,1:1,1:2,1,1:1,3,7:1,1:1,1:1,1,1,1,1,1,1,1,1,2,1,1,1,1,1,1,1,1,2:1,1,1:2,1,1,1,1,1,1,1,1",
      ",1,1,1,1,1,1,1,1,1,1,1,1,1,1,1,1,1,1,1,1,1,7:1,1:1,2,1:3,1,1,1,1,121,1,3,8,6,1:2,1,1:1,1:10,",
      "1:8,23,8,1,1,1,1,1,1,1,1,1,1,1,5,2,1:1,2:32,30,1,1,1,1,1,1,1,1,1,1,1,1,1,1,1,1,9,1,1,1,1,1,1",
      ",1,1,1,1,1,1,1,1,1,1,1,1,1,1,1,1,1,1,1,1,1:1,1,1,1,1,1,1,2,1,1,1,1,1,1,1,1,1,1,1,1,1,1,1,1,1",
      ",1,1,1,1,1,1,1,1,1,1,1,1,1,1,1,1,1,1,1,1,1,1,1,1,1,1,1,1,1,1,2:25,b49:25,1,5,2d2:55,89a:2a,2",
      ":2,140,1,1,1,1,1,1,1,1,1,1,1,1,1,1,1,1,1,1,1,1,1,1,1,1,1,1,1,1,1,1,1,1,1,1,1,1,1,1,1,1,1,1,1",
      ",1,1,1,1,1,1,1,1,1,1,1,1,1,1,1,1,1,1,1,1,1,1,1,1,1,1,1,1,1,1,1,9,1,1,1,1,1,1,1,1,1,1,1,1,1,1",
      ",1,1,1,1,1,1,1,1,1,1,1,1,1,1,1,1,1,1,1,1,1,1,1,1,1,1,1,1,1,1,1,1,1,1,9:7,8:5,a:7,8:7,8:5,b,1",
      ",1,1,8:7,18:7,8:7,8:7,8:4,b:4,b:3,c:4,b:4,129,3:1,6,2d:f,13,332:19,730:2f,30,1:2,2,1,1,1:3,1",
      ",2,8:2,1,1,1,1,1,1,1,1,1,1,1,1,1,1,1,1,1,1,1,1,1,1,1,1,1,1,1,1,1,1,1,1,1,1,1,1,1,1,1,1,1,1,1",
      ",1,1,1,1,1,1,8,1,4,794d,1,1,1,1,1,1,1,1,1,1,1,1,1,1,1,1,1,1,1,1,1,1,13,1,1,1,1,1,1,1,1,1,1,1",
      ",1,1,87,1,1,1,1,1,1,3,1,1,1,1,1,1,1,1,1,1,1,1,1,1,1,1,1,1,1,1,1,1,1,1,1,1,1,1,1,1,a,1,1:1,1,",
      "1,1,1,4,1,2,1,3,1,1,1,1,1,1,1,1,1,1:4,1:4,1,1,1,1,1,1,1,1:3,1,6,5,1,1c,572b:19,4c5:27,88:23,",
      "9c:a,1:e,1:6,1:1,6ea:32,bed:1f,5580:1f,7aa0:21"]),
  (["changeswhentitlecased", "cwt"],
    String.join ["61:19,3a,29:17,1:7,1,1,1,1,1,1,1,1,1,1,1,1,1,1,1,1,1,1,1,1,1,1,1,1,1,1,1,1,2,1,1,1,1,1,1,1:1",
      ",1,1,1,1,1,1,1,1,1,1,1,1,1,1,1,1,1,1,1,1,1,1,1,2,1,1:2,2,1,2,3,5,2,3:1,3,2,1,1,2,4,2,3,1,2,3",
      ",1,4,1:1,1:1,1,1,1,1,1,1,1,1,1:1,1,1,1,1,1,1,1,1,1:2,1,1,3,1,1,1,1,1,1,1,1,1,1,1,1,1,1,1,1,1",
      ",1,1,3,1,1,1,1,1,1,1,1,8,2:1,1,4,1,1,1,1:5,1:1,1,1:1,3:1,1,1:1,1:4,2,1:1,2,7,2,1:1,3:5,5,a:1",
      ",a6,2b,1,3,3:2,12,1b:22,1:1,3:2,1,1,1,1,1,1,1,1,1,1,1,1:4,1,2,2,34:2f,1,1,1,1,1,1,1,1,1,1,1,",
      "1,1,1,1,1,1,9,1,1,1,1,1,1,1,1,1,1,1,1,1,1,1,1,1,1,1,1,1,1,1,1,1,1,2,1,1,1,1,1,1:1,1,1,1,1,1,",
      "1,1,1,1,1,1,1,1,1,1,1,1,1,1,1,1,1,1,1,1,1,1,1,1,1,1,1,1,1,1,1,1,1,1,1,1,1,1,1,1,1,1,1,31:26,",
      "e70:5,882:8,f0,3,10,72,1,1,1,1,1,1,1,1,1,1,1,1,1,1,1,1,1,1,1,1,1,1,1,1,1,1,1,1,1,1,1,1,1,1,1",
      ",1,1,1,1,1,1,1,1,1,1,1,1,1,1,1,1,1,1,1,1,1,1,1,1,1,1,1,1,1,1,1,1,1,1,1,1,1,1,1:6,5,1,1,1,1,1",
      ",1,1,1,1,1,1,1,1,1,1,1,1,1,1,1,1,1,1,1,1,1,1,1,1,1,1,1,1,1,1,1,1,1,1,1,1,1,1,1,1,1,1:8,8:5,a",
      ":7,8:7,8:5,a:7,8:7,8:d,2:7,8:7,8:7,8:4,1:1,6,3:2,1:1,8:3,2:1,8:7,a:2,1:1,156,21:f,4,34b:19,7",
      "46:2f,1,3:1,1,1,1,6,2,a,1,1,1,1,1,1,1,1,1,1,1,1,1,1,1,1,1,1,1,1,1,1,1,1,1,1,1,1,1,1,1,1,1,1,",
      "1,1,1,1,1,1,1,1,1,1,1,1,1,1,1,8,1,4,c:25,1,5,7913,1,1,1,1,1,1,1,1,1,1,1,1,1,1,1,1,1,1,1,1,1,",
      "1,13,1,1,1,1,1,1,1,1,1,1,1,1,1,87,1,1,1,1,1,1,3,1,1,1,1,1,1,1,1,1,1,1,1,1,1,1,1,1,1,1,1,1,1,",
      "1,1,1,1,1,1,1,1,a,1,2,1,1,1,1,4,4,1:1,2,1,1,1,1,1,1,1,1,1,b,1,1,1,1,1,1,1,4,1,6,5,1,1c,35c,1",
      "c:4f,4f40:6,c:4,429:19,4cd:27,88:23,9b:a,1:e,1:6,1:1,703:32,bcd:1f,5580:1f,7aa2:21"]),
  (["changeswhenuppercased", "cwu"],
    String.join ["61:19,3a,29:17,1:7,1,1,1,1,1,1,1,1,1,1,1,1,1,1,1,1,1,1,1,1,1,1,1,1,1,1,1,1,2,1,1,1,1,1,1,1:1",
      ",1,1,1,1,1,1,1,1,1,1,1,1,1,1,1,1,1,1,1,1,1,1,1,2,1,1:2,2,1,2,3,5,2,3:1,3,2,1,1,2,4,2,3,1,2,3",
      ",1,5:1,1:1,1:1,1,1,1,1,1,1,1,1:1,1,1,1,1,1,1,1,1,1:1,1:1,1,3,1,1,1,1,1,1,1,1,1,1,1,1,1,1,1,1",
      ",1,1,1,3,1,1,1,1,1,1,1,1,8,2:1,1,4,1,1,1,1:5,1:1,1,1:1,3:1,1,1:1,1:4,2,1:1,2,7,2,1:1,3:5,5,a",
      ":1,a6,2b,1,3,3:2,12,1b:22,1:1,3:2,1,1,1,1,1,1,1,1,1,1,1,1:4,1,2,2,34:2f,1,1,1,1,1,1,1,1,1,1,",
      "1,1,1,1,1,1,1,9,1,1,1,1,1,1,1,1,1,1,1,1,1,1,1,1,1,1,1,1,1,1,1,1,1,1,2,1,1,1,1,1,1:1,1,1,1,1,",
      "1,1,1,1,1,1,1,1,1,1,1,1,1,1,1,1,1,1,1,1,1,1,1,1,1,1,1,1,1,1,1,1,1,1,1,1,1,1,1,1,1,1,1,1,31:2",
      "6,b48:2a,2:2,2f8:5,882:8,f0,3,10,72,1,1,1,1,1,1,1,1,1,1,1,1,1,1,1,1,1,1,1,1,1,1,1,1,1,1,1,1,",
      "1,1,1,1,1,1,1,1,1,1,1,1,1,1,1,1,1,1,1,1,1,1,1,1,1,1,1,1,1,1,1,1,1,1,1,1,1,1,1,1,1,1,1,1,1,1:",
      "6,5,1,1,1,1,1,1,1,1,1,1,1,1,1,1,1,1,1,1,1,1,1,1,1,1,1,1,1,1,1,1,1,1,1,1,1,1,1,1,1,1,1,1,1,1,",
      "1,1,1:8,8:5,a:7,8:7,8:5,a:7,8:7,8:d,2:34,1:1,4,1,3:2,1:1,4,3:3,2:1,8:7,a:2,1:1,4,151,21:f,4,",
      "34b:19,746:2f,1,3:1,1,1,1,6,2,a,1,1,1,1,1,1,1,1,1,1,1,1,1,1,1,1,1,1,1,1,1,1,1,1,1,1,1,1,1,1,",
      "1,1,1,1,1,1,1,1,1,1,1,1,1,1,1,1,1,1,1,8,1,4,c:25,1,5,7913,1,1,1,1,1,1,1,1,1,1,1,1,1,1,1,1,1,",
      "1,1,1,1,1,13,1,1,1,1,1,1,1,1,1,1,1,1,1,87,1,1,1,1,1,1,3,1,1,1,1,1,1,1,1,1,1,1,1,1,1,1,1,1,1,",
      "1,1,1,1,1,1,1,1,1,1,1,1,a,1,2,1,1,1,1,4,4,1:1,2,1,1,1,1,1,1,1,1,1,b,1,1,1,1,1,1,1,4,1,6,5,1,",
      "1c,35c,1c:4f,4f40:6,c:4,429:19,4cd:27,88:23,9b:a,1:e,1:6,1:1,703:32,bcd:1f,5580:1f,7aa2:21"]),
  (["dash"],
    String.join ["2d,55c,33,e41,405,809:5,3d,27,f,186,c04,2,1f:1,4,1c,1be,13,6f,cd90:1,25,a,a9,f9f"]),
  (["defaultignorablecodepoint", "di"],
    String.join ["ad,2a1,2cc,b42:1,653:1,55:4,7fb:4,1a:4,31:f,10f4,cc9b:f,ef,a0,4f:8,bca7:3,14cf:7,c2e85:fff"]),
  (["dep", "deprecated"],
    String.join ["149,529,903,1,829:1,8c5:5,2b9:1,ddcd6"]),
  (["dia", "diacritic"],
    String.join ["5e,1,47,6,4,2:1,1f7:9e,1:7,5:5,11:1,4,9:1,fd:4,d1,37:10,1:1a,1,1:1,1,86:7,4:1,86:1,4:1,3:2,4",
      "3:1a,5b:a,3a:a,22:1,7e:7,29:9,10:1b,3d,10,3:3,1c,4a,10,6e,10,6e,10,2f:2,3c,10,7,77,6e,10,6e,",
      "10,6d:1,10,7c,7c:5,1,6b,d:4,4b:1,1b,1,1,4:1,42:2,1:1,3e,70,1:1,28:1,4:4,19:6,1,a:1,2c1:2,3b4",
      ":1,b3:a,9,15b:2,139:7,2,30:e,2:a,68,f,26:8,36:1,8a:1,40:5,52:18,4,6,2:2,32:3e,59:b,25:a,1bd,",
      "1:2,b:2,d:2,d:2,d:1,cf0:2,13d,1fa:5,69:3,5f,7572,c:1,1,1c:1,52:1,e:21,66:2,6d:1,ca,1b:11,39:",
      "3,24,5f,c,24,95:2,41:3,33,64:4,9:2,80:1,4f30,301:f,10e,1,2f,2d:1,43,2fc,49f:5,1:29,1:8,32a:1",
      ",23b:5,1d5:2,46:a,31:3,c0,29,48:1,78:1,3e,4c,9:2,68:1,b2:1,51,10,18:6,3:4,cd,3,7b:1,fb:1,7e,",
      "76:1,73,10d:1,102:1,4,9c,53,12,51,1a5,102,1:1,51,16af:e,369a:4,3b:6,458:10,50:1,3ffe:3,1:6,1",
      ":1,1f01:2d,2:16,220:2,3:5,8:7,2:6,1e:3,e82:3d,c2:6,177,3d:3,5e0:6,6d:2,1:2"]),
  (["emoji"],
    String.join ["23,6,5:9,6f,4,1f8d,c,d8,16,5a:5,f:1,16f:1,c,a6,19:a,4:2,c7,e7:1,a,9,3a:3,1:4,9,2,2:1,2,4,2,1",
      ":1,2,3,3:1,8:2,5,1,5:b,b:1,2,1:1,1,12,2:1,12:5,1,1:1,3:1,5,2:1,4:1,b:1,5:1,2,5:1,1,1:1,14:1,",
      "5:5,1:3,2,4,2,2:5,1,2,1,1,6,3,6,a:1,f,2,4,1,4:2,1,b:1,30:2,9,e,e,174:1,1cf:2,13:1,33,4,4da,c",
      ",259,1,1bd6a,ca,a0:1,c:1,e,2:9,4b:19,1:1,17,14,2:8,15:1,ae:21,2:6f,2:1,1:2,2:52,2:2,1:106,1:",
      "3e,b:5,1:17,7:1,2:7,c,2:3,2,4:1,d:1,2,8:1,9,5:2,c:2,8:2,2,1,4,6,3,6:55,30:45,5:7,2:2,4:9,3,1",
      ":1,3,2:9,e3:b,4,11b:2e,1:9,1:b8,70:c,3:8,7:2d,1:6,8:d,4:8,7:8"]),
  (["ecomp", "emojicomponent"],
    String.join ["23,6,5:9,1fd3,d5,dd2b,f3d6:19,1fb:4,5b0:3,c066c:5f"]),
  (["emod", "emojimodifier"],
    String.join ["1f3fb:4"]),
  (["ebase", "emojimodifierbase"],
    String.join ["261d,db,10:3,1cc77,3c:2,2,2:2,75:1,2:a,15:12,3,4:2,1:2,7,1,18,c9:1,4,15,4:1,ae:2,3:4,53,10:2",
      ",9,b,23f,2,8:7,6,9:9,2:2,38,3d:1,1:1,1,11:2,1:c,e5:2,2a:8"]),
  (["emojipresentation", "epres"],
    String.join ["231a:1,cd:3,3,2,209:1,15:1,32:b,2b,13,d,8:1,11:1,5:1,8,5,15,7:1,1,4,2,7,4:1,1c,23,1,4:2,1,3d",
      ":2,18,e,35b:1,33,4,1c4ae,ca,be,2:9,4b:19,1,18,14,2:4,1:2,15:1,ae:20,c:8,1:45,1:15,c:2a,4:4,c",
      ":10,3,3:46,1,1:ba,2:3e,d:3,1:17,12,1a:1,d,56:54,30:45,6,3:2,2:2,4:3,b:1,7:8,e3:b,4,11b:2e,1:",
      "9,1:b8,70:c,3:8,7:2d,1:6,8:d,4:8,7:8"]),
  (["extendedpictographic", "extpict"],
    String.join ["a9,4,1f8d,c,d8,16,5a:5,f:1,16f:1,c,5f,46,19:a,4:2,c7,e7:1,a,9,3a:3,1:5,1:b,1:71,a:75,2:a,1,1",
      ",6,3,6,a:1,f,2,4,1,4:2,1,b:4,2d:2,9,e,e,174:1,1cf:2,13:1,33,4,4da,c,259,1,1bd66:ff,d:2,1f,3c",
      ":5,c:1,e,2:9,12:38,1b:e,a,14,2:8,1:3,9:1b1,5:13d,8:109,30:7f,74:b,55:2a,c:3,38:7,a:5,28:7,1e",
      ":51,c:2e,1:9,1:1b8,100:3fd"]),
  (["ext", "extender"],
    String.join ["b7,218:1,36e,1b9,35a,2f0,7f,943,38,263,18e,44,1389,2b:4,67:1,5d:2,6f16,5f6,3c2,16,89,6c,15:1",
      ",547b,810:1,bda,268:2,4cf,50a9:1,49c:1,1,7158:1,806:2"]),
  (["graphemebase", "grbase"],
    String.join ["20:5e,21:c,1:251,70:7,2:5,4:6,1,1:13,1:df,7:a5,1:25,2:31,2:2,2e,1,2,2,9:1a,4:5,11:9,b,1:2d,1",
      "5:f,1:64,8,6:1,2,4:1f,2,1:1d,1d:58,b,e:2a,9:6,3:17,4,9,3,7:e,1:18,5,1:a,5:1e,11:29,39:36,1,1",
      ":3,8:3,1:2,7:9,2:1c,1:1,1:7,2:1,2:15,1:6,1,3:3,3,1:1,6:1,2:1,1,d:1,1:2,4:17,5,1:5,4:1,2:15,1",
      ":6,1:1,1:1,1:1,4:2,18:3,1,7:9,2:2,1,c,1:8,1:2,1:15,1:6,1:1,1:4,3:3,8,1:1,3,f:1,4:b,7,8:1,1:7",
      ",2:1,2:15,1:6,1:1,1:4,3,2,6:1,2:1,f:1,1:2,4:11,b,1:5,3:2,1:3,3:1,1,1:1,3:1,3:2,3:b,5,1:1,3:2",
      ",1:2,3,15:14,6:2,1:7,1:2,1:16,1:f,3,3:3,13:2,2,2:1,4:9,7:9,1:a,1:2,1:16,1:9,1:4,3:1,1:1,1:1,",
      "2:1,1:1,11:1,1:1,4:9,1:2,e:a,1:2,1:28,2,1:1,5:2,1:2,1:1,4:2,1:9,4:19,2:1,1:11,3:17,1:8,1,2:6",
      ",9:1,6:6,7:9,2:2,c:2f,1:1,b:7,8:c,25:1,1,1:4,1:17,1,1:9,1:1,9,2:4,1,9:9,2:3,20:17,2:1a,1,1,1",
      ":d,1:23,12,5,2:4,31:7,1:5,1:c,25:2c,4,6,2:1,2:18,2:3,3:f,4:c,1:1,2:5,1:e,1:27,1,5,2:178,1:3,",
      "2:6,1,1:3,2:28,1:3,2:20,1:3,2:6,1,1:3,2:e,1:38,1:3,2:42,5:1c,3:19,6:55,2:5,2:29c,3:58,7:11,3",
      ",9:12,2:2,9:11,e:c,1:2,f:33,2,7:7,1:1,b:8,3:9,6:9,6:a,5:9,6:58,7:4,2:21,1,5:45,a:1e,4:3,2:2,",
      "4:1,1:5,7,3:29,2:4,b:2b,4:19,6:a,3:38,2:1,3:37,1,9,1:1,8:5,d:9,6:9,6:d,56:2f,7,1:4,1:9,3:1a,",
      "9:a,3:1f,4:1,2,3:37,1,2:2,1,3:1,8:2f,8:1,5:e,3:3b,7:2a,2:a,b,d,7:3,1:5,1:2,2,5:bf,40:115,2:5",
      ",2:25,2:5,2:7,1,1,1,1:1e,2:34,1:e,1:d,2:5,1:12,2:2,1:8,1:a,5:17,7:30,10:1,2:1a,1:c,3:20,3f:8",
      "b,4:296,19:a,15:713,2:1f,1:157,3:1,5:2c,1,5,2:37,7:1,f:16,9:6,1:6,1:6,1:6,1:6,1:6,1:6,1:6,21",
      ":5d,22:19,1:58,c:d5,1a:b,4:29,6:f,1:55,4:64,5:2a,1:5d,1:53,c:2e,1:726c,3:36,9:15b,14:2e,4,a:",
      "1f,2:4f,2:5,8:ca,5:1,1,1:4,18:f,1:2,1:3,1:18,2:4,4:9,6:37,8:43,a:b,18:c,1:25,8:18,b:1,b:1d,6",
      ":2f,1:1,4:1,2:f,1:a,4:6,1:18,1:28,6:1,2:1,b:2,1:7,1,2:9,2:1f,1:32,1,3:1,2:4,2,1,18:10,2:7,b:",
      "5,2:5,2:5,9:6,1:6,1:3b,4:74,1:1,1:3,3:9,6:2ba3,c:16,4:30,2104:16d,2:69,26:6,c:4,5,1:17,1:4,1",
      ",1:1,1:1,1:7c,10:1bc,2:35,7,20:f,10:9,16:22,1:12,1:3,4:4,1:86,4:9c,2:1e,3:5,2:5,2:5,2:2,3:6,",
      "1:6,d:1,2:b,1:19,1:12,1:1,1:e,2:d,22:7a,5:2,4:2c,3:57,1:c,3,2f:2c,83:1c,3:30,10:1a,4:23,9:1d",
      ",5:25,a:1d,1:24,4:d,2a:9d,2:9,6:23,4:23,4:27,8:33,b:b,1:e,1:6,1:1,1:a,1:e,1:6,1:1,43:136,9:1",
      "5,a:7,18:5,1:29,1:8,45:5,2,1:2b,1:1,3,2:16,1:47,8:8,30:12,1:1,5:20,3:1a,5,40:37,4:13,2:2e,f:",
      "3,1:2,1:1c,a:8,7:8,7:3f,20:24,6:b,9:35,3:1c,2:1a,5:19,7:3,c:6,50:48,37:32,d:32,7:29,c:9,126:",
      "1e,1:29,3,2:1,4e:27,8:15,b:8,16:11,4:3,26:1b,14:16,9,1:35,f:6,4:1d,1:1,2,c:30,4:1,2:1,1:3,e:",
      "18,7:9,9:23,5,9:11,8:22,1:2,b:33,9:9,4:1,1:f,1:13,b:11,1:1b,3:1,1,2:5,1:1,3f:6,1,1:3,1:e,1:a",
      ",6:2e,1:2,d:9,8:1,1:7,2:1,2:15,1:6,1:1,1:4,3,1,1:3,2:1,2:2,2,c:6,9c:37,8:1,3,1:14,1,1:2,1e:2",
      "f,1:1,6,1:1,1,2,2:3,8:9,a6:2e,1:1,6:3,2,2:1a,24:32,8:1,1,2:3,b:9,6:c,13:2a,1,1:1,6,1:1,6:9,3",
      "6:1a,5:1,4,9:16,b9:2e,9,2,64:52,c:7,2,2:7,1:1,1:17,1:4,1:1,4,1:3,1:2,9:9,46:7,2:29,8:3,1:3,1",
      "b,a:27,6:1,4:7,9,6:1,3:2d,d,2:8,d:48,7:9,f6:8,1:25,e,1:5,a:1c,3:1f,19,7,2,4b:6,1:1,1:25,15,9",
      ":9,6:5,1:1,1:24,4:1,1,1,7:9,136:12,2:3,9:e,1:23,8:1,1,1:16,56,f:31,d:39a,66:6e,1:4,b:c3,a4c:",
      "62,d:42f,11:5,fb9:246,21b9:238,7:1e,1:9,4:50,1:9,6:1d,7,a:2f,7:e,a:9,1:6,1:14,5:12,2b0:5a,65",
      ":4a,5:37,b:c,40:3,c:1,e:17f7,8:4d5,2a:8,22e7:3,1:6,1:1,1:122,f,1d:2,2,e:3,8:18b,904:6a,5:c,3",
      ":8,7:9,2,2,12b0:73,3c:f5,a:26,2:3b,1,3:3,15:1,7:1d,4:3c,15:41,3,7a:13,c:13,c:56,9:18,87:54,1",
      ":46,1:1,2,2:1,2:3,1:b,1,1:6,1:40,1:3,2:7,1:6,1:1b,1:3,1:4,1,3:6,1:153,2:123,2:231,37:3,32:7,",
      "1:d,1:6,474:1e,6:5,105:3d,92:2c,a:6,2:9,4:1,140:1d,12:2b,4:9,5,1d0:1b,4:9,2e6:6,1:3,1:1,1:e,",
      "1:c4,2:8,30:43,7,4:9,4:1,311:43,4c:3c,c2:3,1:1a,1:1,1,2,1:9,1:3,1,1,6,4,1,1,1:2,1:1,1,2,1,1,",
      "1,1,1:1,1,2:3,1:6,1:3,1:3,1,1:9,1:10,5:2,1:4,1:10,34:1,10e:2b,4:63,c:e,2:e,1:e,1:24,a:ad,38:",
      "1c,d:2b,4:8,7:1,e:5,9a:3d7,4:10,3:c,3:76,4:5e,6:b,4,f:b,4:37,8:9,6:27,8:1d,2:1,4e:153,c:d,2:",
      "c,3:8,7:2d,1:6,8:d,4:8,7:8,7:92,1:36,25:9,406:a6df,20:1039,6:dd,2:1681,e:1d30,c1f:21d,5e2:13",
      "4a,5:105f"]),
  (["graphemeextend", "grext"],
    String.join ["300:6f,113:6,107:2c,1,1:1,1:1,1,48:a,30:14,10,65:6,2:5,2:1,1:3,23,1e:1a,5b:a,3a:8,9,18:3,1:8",
      ",1:2,1:4,2b:2,3c:7,2a:17,1:1f,37,1,4:7,4,3:6,a:1,1d,3a,1,2:3,8,9,a:1,1a,2:1,39,4:1,4:1,2:2,3",
      ",1e:1,3,b:1,39,4:4,1:1,4,14:1,16:5,1,3a,1:1,1:3,8,7:2,a:1,1e,3b,1,c,9,28,3,37,1:2,5:2,1:3,7:",
      "1,b:1,1d,3a,2,2,3,5:1,7:1,b:1,1c:1,39:1,1,2:3,8,9,a:1,1d,48,4,2:2,1,8,51,2:6,c:7,62,2:8,b:6,",
      "49:1,1b,1,1,37:d,1:4,1:1,5:a,1:23,9,66:3,1:5,1:1,2:1,19:1,4:2,10:3,d,2:1,6,f,2bf:2,3b2:2,1d:",
      "1,1e:1,1e:1,40:1,1:6,8,2:a,9,2d:2,1,75:1,22,76:2,4:1,9,6:2,db:1,2,3a,1:6,1,1,2:7,6:9,2,30:1e",
      ",31:3,30:6,1,5,28:8,c:1,20:3,2:1,1:2,38,1:1,3,1:2,3a:7,2:1,98:2,1:c,1:6,4,6,3:1,c6:3f,20c,c3",
      ":20,bfe:2,8d,60:1f,22a:5,69:1,75d4:3,1:9,20:1,50:1,110,3,4,19:1,5,97:1,1a:11,d,26:7,19:a,2e:",
      "2,30,2:3,2:1,27,43:5,2:1,2:1,c,8,2f,33,1:2,2:1,5:1,1,2a:1,8,ee,2,4,4f30,2e1:f,10:f,16e:1,25d",
      ",e2,95:4,686:2,1:1,5:3,28:2,4,a5:1,23d:3,183:1,50:2,46:a,31:3,7b,36:e,29,2:1,a:2,31:3,2:1,7,",
      "3d:2,24:4,1:7,3e,c:1,34:8,a:3,2,5f:2,2,1:1,6,2,9d,3:7,15:1,39:1,1,1,16,e:6,3:4,c3:7,2:2,1,17",
      ",51,2:5,1,2,1:1,1:1,eb,2:3,6:1,1:1,1b:1,55:7,2,1:1,6a,1,2:5,1,65:2,2:3,1:4,103:8,1:1,f5,a:1,",
      "1,4,90:3,2:1,4,20:9,28:5,2:3,8,9:5,2:2,2e:c,1:1,196:6,1:5,1,52:15,2:6,1:1,1:1,7a:5,3,1:1,1:6",
      ",1,48:1,3,1,15b:1,b:1,34:4,5,1,14fd,6:e,369a:4,3b:6,418,3f:3,51,4cb8:1,1261:2d,2:16,21e,1:2,",
      "4:4,8:7,2:6,1e:3,94:2,7bb:36,4:31,8,e,16:4,1:e,550:6,1:10,2:6,1:1,1:4,64,a0:6,177,3d:3,1fc:3",
      ",3e0:6,6d:6,c16d5:5f,80:ef"]),
  (["hex", "hexdigit"],
    String.join ["30:9,7:5,1a:5,fea9:9,7:5,1a:5"]),
  (["idc", "idcontinue"],
    String.join ["30:9,7:19,4,1:19,2f,a,1,2,5:16,1:1e,1:1c9,4:b,e:4,7,1,11:74,1:1,2:3,1,6:4,1,1:13,1:52,1:8a,1",
      ":4,2:a5,1:25,2,6:28,8:2c,1,1:1,1:1,1,8:1a,4:3,1d:a,5:49,4:65,1:7,2:9,1:12,2,10:3a,2:64,e:35,",
      "4,2,2:2d,12:1b,4:a,5:17,1:5,9:49,1:80,2:9,1:12,1:7,2:1,2:15,1:6,1,3:3,2:8,2:1,2:3,8,4:1,1:4,",
      "2:b,a,1,2:2,1:5,4:1,2:15,1:6,1:1,1:1,1:1,2,1:4,4:1,2:2,3,7:3,1,7:f,b:2,1:8,1:2,1:15,1:6,1:1,",
      "1:4,2:9,1:2,1:2,2,f:3,2:9,9:6,1:2,1:7,2:1,2:15,1:6,1:1,1:4,2:8,2:1,2:2,7:2,4:1,1:4,2:9,1,10:",
      "1,1:5,3:2,1:3,3:1,1,1:1,3:1,3:2,3:b,4:4,3:2,1:3,2,6,e:9,10:c,1:2,1:16,1:f,2:8,1:2,1:3,7:1,1:",
      "2,2,2:3,2:9,10:3,1:7,1:2,1:16,1:9,1:4,2:8,1:2,1:3,7:1,6:1,1:3,2:9,1:2,c:c,1:2,1:32,1:2,1:4,5",
      ":3,7:4,2:9,a:5,1:2,1:11,3:17,1:8,1,2:6,3,4:5,1,1:7,6:9,2:1,d:39,5:e,1:9,27:1,1,1:4,1:17,1,1:",
      "16,2:4,1,1:6,1:9,2:3,20,17:1,6:9,b,1,1,4:9,1:23,4:13,1:11,1:23,9,39:49,6:4d,2:25,1,5,2:2a,1:",
      "14c,1:3,2:6,1,1:3,2:28,1:3,2:20,1:3,2:6,1,1:3,2:e,1:38,1:3,2:42,2:2,9:8,e:f,10:55,2:5,3:26b,",
      "2:10,1:19,5:4a,3:a,7:15,9:15,b:13,c:c,1:2,1:1,c:53,3,4:1,2:9,21:2,1:a,6:58,7:2a,5:45,a:1e,1:",
      "b,4:b,a:27,2:4,b:2b,4:19,6:a,25:1b,4:3e,1:1c,2:a,6:9,d,8:d,1:f,31:4c,3:9,11:8,c:73,c:37,8:9,",
      "3:30,2:8,7:2a,2:2,10:2,1:26,5:215,2:5,2:25,2:5,2:7,1,1,1,1:1e,2:34,1:6,1,3:2,1:6,3:3,2:5,4:c",
      ",5:2,1:6,42:1,13,1c,d,10:c,33:c,4,3:b,11,4,2:9,1,2:5,6,1,1,1:f,2:3,5:4,4,11:28,a77:e4,6:8,c:",
      "25,1,5,2:37,7,f:17,9:6,1:6,1:6,1:6,1:6,1:6,1:6,1:6,1:1f,205:2,19:e,1:4,2:4,4:55,2:6,1:59,1:3",
      ",5:2a,1:5d,11:1f,30:f,200:19bf,40:568c,43:2d,2:10c,3:1b,14:2f,4:9,1:72,25:8,2:66,2:3f,5:1,1,",
      "1:4,18:35,4,13:33,c:45,a:9,6:17,3,1:30,2:23,c:1c,3:40,e:a,6:1e,1:36,9:d,2:9,6:16,3:48,18:2,2",
      ":f,2:4,a:5,2:5,2:5,9:6,1:6,1:2a,1:d,6:7a,1:1,2:9,6:2ba3,c:16,4:30,2104:16d,2:69,26:6,c:4,5:b",
      ",1:c,1:4,1,1:1,1:1,1:6b,21:16a,12:3f,2:35,28:b,4:f,10:f,3:1,18:2,20:4,1:86,13:9,7:19,4,1:19,",
      "b:58,3:5,2:5,2:5,2:2,23:b,1:19,1:12,1:1,1:e,2:d,22:7a,45:34,88,82:1c,3:30,f,1f:1f,d:1d,5:2a,",
      "5:1d,2:23,4:7,1:4,2a:9d,2:9,6:23,4:23,4:27,8:33,c:a,1:e,1:6,1:1,1:a,1:e,1:6,1:1,43:136,9:15,",
      "a:7,18:5,1:29,1:8,45:5,2,1:2b,1:1,3,2:16,a:16,9:1e,41:12,1:1,a:15,a:19,46:37,6:1,40:3,1:1,5:",
      "7,1:2,1:1c,2:2,4,20:1c,3:1c,23:7,1:1d,19:35,a:15,a:12,d:11,6e:48,37:32,d:32,d:27,8:9,146:29,",
      "1:1,3:1,4b:1f,a,8:20,1f:15,2a:14,1b:16,9:46,1f:f,9:3b,7,d:18,7:9,6:34,1:9,4:3,8:23,2,9:44,4:",
      "3,1:c,1,23:11,1:24,6:3,3e:6,1,1:3,1:e,1:9,7:3a,5:9,6:3,1:7,2:1,2:15,1:6,1:1,1:4,1:9,2:1,2:2,",
      "2,6,5:6,2:6,3:4,8b:4a,5:9,4:3,1e:45,1,8:9,a6:35,2:8,17:5,22:40,3,b:9,26:38,7:9,36:1a,2:e,4:9",
      ",6:6,b9:3a,65:49,15:7,2,2:7,1:1,1:1d,1:1,2:8,c:9,46:7,2:2d,2:7,1:1,1b:3e,8,8:49,3,12:48,107:",
      "8,1:2c,1:8,f:9,18:1d,2:15,1:d,49:6,1:1,1:2b,3,1:1,1:8,8:9,6:5,1:1,1:24,1:1,1:5,7:9,136:16,9:",
      "10,1:28,3:4,d:9,56,4f:399,66:6e,11:c3,a4c:60,f:42f,10:15,faa:246,21b9:238,7:1e,1:9,6:4e,1:9,",
      "6:1d,2:4,b:36,9:3,c:9,9:14,5:12,2b0:3f,80:4a,4:38,7:10,40:1,1:1,b:1,e:17f7,8:4d5,2a:8,22e7:3",
      ",1:6,1:1,1:122,f,1d:2,2,e:3,8:18b,904:6a,5:c,3:8,7:9,3:1,1261:2d,2:16,21e:4,3:5,8:7,2:6,1e:3",
      ",94:2,1bb:54,1:46,1:1,2,2:1,2:3,1:b,1,1:6,1:40,1:3,2:7,1:6,1:1b,1:3,1:4,1,3:6,1:153,2:18,1:1",
      "8,1:1e,1:18,1:1e,1:18,1:1e,1:18,1:1e,1:18,1:7,2:31,200:36,4:31,8,e,16:4,1:e,450:1e,6:5,d5:6,",
      "1:10,2:6,1:1,1:4,5:3d,21,70:2c,3:d,2:9,4,141:1e,11:39,1d6:29,2e6:6,1:3,1:1,1:e,1:c4,b:6,29:4",
      "b,4:9,4a6:3,1:1a,1:1,1,2,1:9,1:3,1,1,6,4,1,1,1:2,1:1,1,2,1,1,1,1,1:1,1,2:3,1:6,1:3,1:3,1,1:9",
      ",1:10,5:2,1:4,1:10,d34:9,406:a6df,20:1039,6:dd,2:1681,e:1d30,c1f:21d,5e2:134a,5:105f,add50:e",
      "f"]),
  (["ids", "idstart"],
    String.join ["41:19,6:19,2f,a,4,5:16,1:1e,1:1c9,4:b,e:4,7,1,81:4,1:1,2:3,1,6,1:2,1,1:13,1:52,1:8a,8:a5,1:2",
      "5,2,6:28,47:1a,4:3,2d:2a,23:1,1:62,1,f:1,7:1,a:2,2,10,1:1d,1d:58,b,18:20,9:1,4,5:15,4,9,3,17",
      ":18,7:a,5:17,1:5,11:29,3a:35,3,12,7:9,f:f,4:7,2:1,2:15,1:6,1,3:3,3,10,d:1,1:2,e:1,a,8:5,4:1,",
      "2:15,1:6,1:1,1:1,1:1,1f:3,1,13:2,10:8,1:2,1:15,1:6,1:1,1:4,3,12,f:1,17,b:7,2:1,2:15,1:6,1:1,",
      "1:4,3,1e:1,1:2,f,11,1:5,3:2,1:3,3:1,1,1:1,3:1,3:2,3:b,16,34:7,1:2,1:16,1:f,3,1a:2,2,2:1,1e,4",
      ":7,1:2,1:16,1:9,1:4,3,1f:1,1:1,f:1,11:8,1:2,1:28,2,10,5:2,8:2,18:5,5:11,3:17,1:8,1,2:6,3a:2f",
      ",1:1,c:6,3a:1,1,1:4,1:17,1,1:9,1:1,9,2:4,1,15:3,20,3f:7,1:23,1b:4,73:2a,14,10:5,4:3,3,3:1,7:",
      "2,4:c,c,11:25,1,5,2:2a,1:14c,1:3,2:6,1,1:3,2:28,1:3,2:20,1:3,2:6,1,1:3,2:e,1:38,1:3,2:42,25:",
      "f,10:55,2:5,3:26b,2:10,1:19,5:4a,3:a,7:11,d:12,e:11,e:c,1:2,f:33,23,4,43:58,7:28,1,5:45,a:1e",
      ",31:1d,2:4,b:2b,4:19,36:16,9:34,52,5d:2e,11:7,36:1d,d:1,a:2b,1a:23,29:2,a:23,2:8,7:2a,2:2,29",
      ":3,1:5,1:1,3,5:bf,40:115,2:5,2:25,2:5,2:7,1,1,1,1:1e,2:34,1:6,1,3:2,1:6,3:3,2:5,4:c,5:2,1:6,",
      "74,d,10:c,65,4,2:9,1,2:5,6,1,1,1:f,2:3,5:4,4,11:28,a77:e4,6:3,3:1,c:25,1,5,2:37,7,10:16,9:6,",
      "1:6,1:6,1:6,1:6,1:6,1:6,1:6,226:2,19:8,7:4,2:4,4:55,4:4,1:59,1:3,5:2a,1:5d,11:1f,30:f,200:19",
      "bf,40:568c,43:2d,2:10c,3:f,a:1,14:2e,10:1e,2:4f,27:8,2:66,2:3f,5:1,1,1:4,18:f,1:2,1:3,1:16,1",
      "d:33,e:31,3e:5,3,1:1,b:1b,a:16,19:1c,7:2e,1c,10:4,1:9,a:4,1:28,17:2,1:7,14:16,3,3:31,1,3:1,2",
      ":4,2,1,18:2,2:a,7:2,c:5,2:5,2:5,9:6,1:6,1:2a,1:d,6:72,1d:2ba3,c:16,4:30,2104:16d,2:69,26:6,c",
      ":4,5,1:9,1:c,1:4,1,1:1,1:1,1:6b,21:16a,12:3f,2:35,28:b,74:4,1:86,24:19,6:19,b:58,3:5,2:5,2:5",
      ",2:2,23:b,1:19,1:12,1:1,1:e,2:d,22:7a,45:34,10b:1c,3:30,2f:1f,d:1d,5:25,a:1d,2:23,4:7,1:4,2a",
      ":9d,12:23,4:23,4:27,8:33,c:a,1:e,1:6,1:1,1:a,1:e,1:6,1:1,43:136,9:15,a:7,18:5,1:29,1:8,45:5,",
      "2,1:2b,1:1,3,2:16,a:16,9:1e,41:12,1:1,a:15,a:19,46:37,6:1,40,f:3,1:2,1:1c,2a:1c,3:1c,23:7,1:",
      "1b,1b:35,a:15,a:12,d:11,6e:48,37:32,d:32,d:23,15c:29,6:1,4e:1c,a,8:15,2a:11,2e:14,1b:16,c:34",
      ",39:1,2,d:2c,20:18,1a:23,1d,2,8:22,3,c:2f,e:3,15,1,23:11,1:18,13:1,3f:6,1,1:3,1:e,1:9,7:2e,2",
      "6:7,2:1,2:15,1:6,1:1,1:4,3,12,c:4,9e:34,12:3,14:2,1e:2f,14:1,1,b8:2e,29:3,24:2f,14,3b:2a,d,4",
      "7:1a,25:6,b9:2b,74:3f,1f:7,2,2:7,1:1,1:17,f,1,5e:7,2:26,10,1,1c,a:27,7,15,b:2d,13,12:48,107:",
      "8,1:24,11,31:1d,70:6,1:1,1:25,15,19:5,1:1,1:1f,e,147:12,f,1:c,1:21,7c,4f:399,66:6e,11:c3,a4c",
      ":60,f:42f,11:5,fb9:246,21b9:238,7:1e,11:4e,11:1d,12:2f,10:3,1f:14,5:12,2b0:3f,80:4a,5,42:c,4",
      "0:1,1,1c:17f7,8:4d5,2a:8,22e7:3,1:6,1:1,1:122,f,1d:2,2,e:3,8:18b,904:6a,5:c,3:8,7:9,1766:54,",
      "1:46,1:1,2,2:1,2:3,1:b,1,1:6,1:40,1:3,2:7,1:6,1:1b,1:3,1:4,1,3:6,1:153,2:18,1:18,1:1e,1:18,1",
      ":1e,1:18,1:1e,1:18,1:1e,1:18,1:7,734:1e,6:5,105:3d,92:2c,a:6,10,141:1d,12:2b,1e4:1b,2f4:6,1:",
      "3,1:1,1:e,1:c4,3b:43,7,4b4:3,1:1a,1:1,1,2,1:9,1:3,1,1,6,4,1,1,1:2,1:1,1,2,1,1,1,1,1:1,1,2:3,",
      "1:6,1:3,1:3,1,1:9,1:10,5:2,1:4,1:10,1144:a6df,20:1039,6:dd,2:1681,e:1d30,c1f:21d,5e2:134a,5:",
      "105f"]),
  (["ideo", "ideographic"],
    String.join ["3006:1,19:8,e:2,3c5:19bf,40:51ff,5900:16d,2:69,750a,1b:17f7,8:4d5,2a:8,2467:18b,4d04:a6df,20",
      ":1039,6:dd,2:1681,e:1d30,c1f:21d,5e2:134a,5:105f"]),
  (["idsb", "idsbinaryoperator"],
    String.join ["2ff0:1,2:7"]),
  (["idst", "idstrinaryoperator"],
    String.join ["2ff2:1"]),
  (["joinc", "joincontrol"],
    String.join ["200c:1"]),
  (["loe", "logicalorderexception"],
    String.join ["e40:4,7b:4,af0:2,2,90fa:1,2,1:1"]),
  (["lower", "lowercase"],
    String.join ["61:19,2f,a,4,24:17,1:7,1,1,1,1,1,1,1,1,1,1,1,1,1,1,1,1,1,1,1,1,1,1,1,1,1,1,1,1:1,1,1,1,1,1,1",
      ",1,1:1,1,1,1,1,1,1,1,1,1,1,1,1,1,1,1,1,1,1,1,1,1,1,1,2,1,1:2,2,1,2,3:1,4,2,3:2,2,2,1,1,2,1:1",
      ",1,2,3,1,2:1,2:2,6,2,2,1,1,1,1,1,1,1,1:1,1,1,1,1,1,1,1,1,1:1,2,1,3,1,1,1,1,1,1,1,1,1,1,1,1,1",
      ",1,1,1,1,1,1,1,1,1,1,1,1,1,1,1,1:6,2,2:1,1,4,1,1,1,1:44,1:23,7:1,1e:4,60,2b,1,3,2:3,12,1b:22",
      ",1:1,3:2,1,1,1,1,1,1,1,1,1,1,1,1:4,1,2,2:1,33:2f,1,1,1,1,1,1,1,1,1,1,1,1,1,1,1,1,1,9,1,1,1,1",
      ",1,1,1,1,1,1,1,1,1,1,1,1,1,1,1,1,1,1,1,1,1,1,2,1,1,1,1,1,1:1,1,1,1,1,1,1,1,1,1,1,1,1,1,1,1,1",
      ",1,1,1,1,1,1,1,1,1,1,1,1,1,1,1,1,1,1,1,1,1,1,1,1,1,1,1,1,1,1,1,1,30:28,b47:2a,1:3,2f8:5,882:",
      "8,77:bf,41,1,1,1,1,1,1,1,1,1,1,1,1,1,1,1,1,1,1,1,1,1,1,1,1,1,1,1,1,1,1,1,1,1,1,1,1,1,1,1,1,1",
      ",1,1,1,1,1,1,1,1,1,1,1,1,1,1,1,1,1,1,1,1,1,1,1,1,1,1,1,1,1,1,1,1,1:8,1,1,1,1,1,1,1,1,1,1,1,1",
      ",1,1,1,1,1,1,1,1,1,1,1,1,1,1,1,1,1,1,1,1,1,1,1,1,1,1,1,1,1,1,1,1,1,1,1,1,1:8,8:5,a:7,8:7,8:5",
      ",a:7,8:7,8:d,2:7,8:7,8:7,8:4,1:1,6,3:2,1:1,8:3,2:1,8:7,a:2,1:1,79,d,10:c,6d,3:1,3,1b,4,4,2:1",
      ",8:3,4,21:f,4,34b:19,746:2f,1,3:1,1,1,1,4,1:1,1:7,3,1,1,1,1,1,1,1,1,1,1,1,1,1,1,1,1,1,1,1,1,",
      "1,1,1,1,1,1,1,1,1,1,1,1,1,1,1,1,1,1,1,1,1,1,1,1,1,1,1,1,1:1,7,1,4,c:25,1,5,7913,1,1,1,1,1,1,",
      "1,1,1,1,1,1,1,1,1,1,1,1,1,1,1,1,13,1,1,1,1,1,1,1,1,1,1,1,1,1:2,85,1,1,1,1,1,1:2,1,1,1,1,1,1,",
      "1,1,1,1,1,1,1,1,1,1,1,1,1,1,1,1,1,1,1,1,1,1,1,1,1:9,1,1,2,1,1,1,1,4,1,2,1:2,1,1,1,1,1,1,1,1,",
      "1,1,5,5,1,1,1,1,1,1,1,4,1,6,1,1,1,1,18:2,1,1:2,335:2a,1:d,6:4f,4f40:6,c:4,429:19,4cd:27,88:2",
      "3,9b:a,1:e,1:6,1:1,1c3,2:2,1:29,1:8,505:32,bcd:1f,5580:1f,659a:19,1a:6,1:11,1a:19,1a:3,1,1:6",
      ",1:a,1a:19,1a:19,1a:19,1a:19,1a:19,1a:19,1a:19,1a:19,1a:1b,1c:18,1:5,1a:18,1:5,1a:18,1:5,1a:",
      "18,1:5,1a:18,1:5,1,734:9,1:13,6:5,105:3d,8b4:21"]),
  (["math"],
    String.join ["2b,10:2,1f,1d,1,2d,4,25,1f,2d8:2,2,1a:1,2:2,20f:2,1a0d,1b:2,b,3,d,e:3,15:4,b:4,41:c,4,3:1,4:",
      "4,12,4,2:9,1,2:5,6,3:1,2:1,1:2,1:5,3:d,1,44:17,1:5,1:1,4:1,4:1f,1,6:1,e:10b,8:3,14:1,5a,1e:1",
      "a,1,18,b:6,1bd:1,c:9,4:5,4:1,2:1,3:4,e,1,2:5,b:7,5:1,39,1,1d:3,9:2,150:3f,100:1ff,30:14,2:5,",
      "cfdc,337:5,1,a2,10:2,1d,1,1d,1,83,6:3,d413:54,1:46,1:1,2,2:1,2:3,1:b,1,1:6,1:40,1:3,2:7,1:6,",
      "1:1b,1:3,1:4,1,3:6,1:153,2:123,2:31,1600:3,1:1a,1:1,1,2,1:9,1:3,1,1,6,4,1,1,1:2,1:1,1,2,1,1,",
      "1,1,1:1,1,2:3,1:6,1:3,1:3,1,1:9,1:10,5:2,1:4,1:10,34:1"]),
  (["nchar", "noncharactercodepoint"],
    String.join ["fdd0:1f,20e:1,fffe:1,fffe:1,fffe:1,fffe:1,fffe:1,fffe:1,fffe:1,fffe:1,fffe:1,fffe:1,fffe:1,f",
      "ffe:1,fffe:1,fffe:1,fffe:1,fffe:1"]),
  (["patsyn", "patternsyntax"],
    String.join ["21:e,a:6,1a:3,1,1a:3,22:6,1,1:1,1,1:1,4,4,3,17,1f,1f18:17,8:e,2:12,1:9,131:2cf,a0:275,1e:46b",
      ",200:7f,181:2,4:18,f,cd0d:1,105:1"]),
  (["patternwhitespace", "patws"],
    String.join ["9:4,12,64,1f88:1,18:1"]),
  (["pcm", "prependedconcatenationmark"],
    String.join ["600:5,d7,31,180:1,50,107da,f"]),
  (["qmark", "quotationmark"],
    String.join ["22,4,83,f,1f5c:7,19:1,e07,1c9:3,d:2,ce21:3,bd,4,5a:1"]),
  (["radical"],
    String.join ["2e80:19,1:58,c:d5"]),
  (["regionalindicator", "ri"],
    String.join ["1f1e6:19"]),
  (["sentenceterminal", "sterm"],
    String.join ["21,c,10,549,93:2,b4,2b:2,f6,3d,1,3:1,125:1,6e4:1,316,4:1,305,c6:1,cc,5,13a:1,162:3,ae:1,2:1,",
      "1d:1,bc:1,41:1,3bc:1,9:2,de4,d,16:1,1ad,74fc,10e:1,e3,3,17e:1,56:1,5f,98:1,93:2,90:1,f9,5266",
      ",3:1,a9,c,10,41,af4:1,4fd:4,2c:3,bd:1,75:3,7f:2,81:1,6,10:1,58:1,1:1,6c,1a1:1,175:1,5:e,69:1",
      ",f9:2,205,1,fb:1,57:1,1a4:1,2b4:1,4a:1,4b29:1,85,41:1,b,353,4e06,1de8"]),
  (["sd", "softdotted"],
    String.join ["69:1,c4,119,1e,34,14,140,62,1,1909,33,d,3,84,9d,1a5,d6:1,b32,1a7a5:1,32:1,32:1,32:1,32:1,32:",
      "1,32:1,32:1,32:1,32:1,32:1,32:1,32:1,886,131:1,1a"]),
  (["term", "terminalpunctuation"],
    String.join ["21,a,1,b:1,3,33e,8,201,39,48,e,1:2,b4,2b:a,1,eb:1,36:e,1f,105:1,4f4:1,ac,4:5,137:1,315:7,305",
      ",7c:2,47:1,9d:2,3,27:3,2:1,13a:1,162:3,ae:1,1:2,1d:1,bc:4,3e:1,3bc:1,9:2,de4,d,4,a,1:1,3:1,1",
      "ac:1,74fb:1,10d:2,e3:4,17e:1,56:1,5f,97:2,93:2,7f,10:1,f9,5264:2,1:3,a9,a,1,b:1,3,41,2,43a,3",
      "0,486,c7,136:1,98:5,44:5,59:3,3b8:4,2c:3,bd:6,70:3,7f:2,81:1,6,10:1,58:4,6c,1a1:2,c:1,166:3,",
      "3:e,69:1,f9:2,205,1,fb:1,57:1,4:1,19e:2,2d,285:1,4a:1,52b:4,45f9:1,85,41:2,a,352:1,4e06,1de7",
      ":3"]),
  (["uideo", "unifiedideograph"],
    String.join ["3400:19bf,40:51ff,5a0e:1,1,1:1,a,1,1:1,2:2,105d6:a6df,20:1039,6:dd,2:1681,e:1d30,141f:134a,5",
      ":105f"]),
  (["upper", "uppercase"],
    String.join ["41:19,65:16,1:6,21,1,1,1,1,1,1,1,1,1,1,1,1,1,1,1,1,1,1,1,1,1,1,1,1,1,1,1,2,1,1,1,1,1,1,1,2,1",
      ",1,1,1,1,1,1,1,1,1,1,1,1,1,1,1,1,1,1,1,1,1,1:1,1,1,3:1,1,1:1,1:2,2:3,1:1,1:2,3:1,1:1,1,1,1:1",
      ",1,2,1:1,1:2,1,1:1,3,7,2,2,2,1,1,1,1,1,1,1,2,1,1,1,1,1,1,1,1,2,2,1:2,1,1,1,1,1,1,1,1,1,1,1,1",
      ",1,1,1,1,1,1,1,1,1,1,1,1,1,1,1,1,1,7:1,1:1,2,1:3,1,1,1,1,121,1,3,8,6,1:2,1,1:1,1:10,1:8,23,2",
      ":2,3,1,1,1,1,1,1,1,1,1,1,1,5,2,1:1,2:32,30,1,1,1,1,1,1,1,1,1,1,1,1,1,1,1,1,9,1,1,1,1,1,1,1,1",
      ",1,1,1,1,1,1,1,1,1,1,1,1,1,1,1,1,1,1,1:1,1,1,1,1,1,1,2,1,1,1,1,1,1,1,1,1,1,1,1,1,1,1,1,1,1,1",
      ",1,1,1,1,1,1,1,1,1,1,1,1,1,1,1,1,1,1,1,1,1,1,1,1,1,1,1,1,2:25,b49:25,1,5,2d2:55,89a:2a,2:2,1",
      "40,1,1,1,1,1,1,1,1,1,1,1,1,1,1,1,1,1,1,1,1,1,1,1,1,1,1,1,1,1,1,1,1,1,1,1,1,1,1,1,1,1,1,1,1,1",
      ",1,1,1,1,1,1,1,1,1,1,1,1,1,1,1,1,1,1,1,1,1,1,1,1,1,1,1,1,1,9,1,1,1,1,1,1,1,1,1,1,1,1,1,1,1,1",
      ",1,1,1,1,1,1,1,1,1,1,1,1,1,1,1,1,1,1,1,1,1,1,1,1,1,1,1,1,1,1,1,1,9:7,8:5,a:7,8:7,8:5,b,1,1,1",
      ",8:7,48:3,c:3,c:3,c:4,b:3,106,4,3:2,2:2,2,3:4,6,1,1,1:3,2:3,a:1,5,1a:f,13,332:19,730:2f,30,1",
      ":2,2,1,1,1:3,1,2,8:2,1,1,1,1,1,1,1,1,1,1,1,1,1,1,1,1,1,1,1,1,1,1,1,1,1,1,1,1,1,1,1,1,1,1,1,1",
      ",1,1,1,1,1,1,1,1,1,1,1,1,1,8,1,4,794d,1,1,1,1,1,1,1,1,1,1,1,1,1,1,1,1,1,1,1,1,1,1,13,1,1,1,1",
      ",1,1,1,1,1,1,1,1,1,87,1,1,1,1,1,1,3,1,1,1,1,1,1,1,1,1,1,1,1,1,1,1,1,1,1,1,1,1,1,1,1,1,1,1,1,",
      "1,1,a,1,1:1,1,1,1,1,4,1,2,1,3,1,1,1,1,1,1,1,1,1,1:4,1:4,1,1,1,1,1,1,1,1:3,1,6,5,1,1c,572b:19",
      ",4c5:27,88:23,9c:a,1:e,1:6,1:1,6ea:32,bed:1f,5580:1f,65a0:19,1a:19,1a:19,1a,1:1,2,2:1,2:3,1:",
      "7,1a:19,1a:1,1:3,2:7,1:6,1b:1,1:3,1:4,1,3:6,1b:19,1a:19,1a:19,1a:19,1a:19,1a:19,1e:18,21:18,",
      "21:18,21:18,21:18,21,1135:21,80e:19,6:19,6:19"]),
  (["variationselector", "vs"],
    String.join ["180b:2,1,e5f0:f,d02f0:ef"]),
  (["space", "whitespace", "wspace"],
    String.join ["9:4,12,64,1a,15df,97f:a,1d:1,5,2f,fa0"]),
  (["xidc", "xidcontinue"],
    String.join ["30:9,7:19,4,1:19,2f,a,1,2,5:16,1:1e,1:1c9,4:b,e:4,7,1,11:74,1:1,3:2,1,6:4,1,1:13,1:52,1:8a,1",
      ":4,2:a5,1:25,2,6:28,8:2c,1,1:1,1:1,1,8:1a,4:3,1d:a,5:49,4:65,1:7,2:9,1:12,2,10:3a,2:64,e:35,",
      "4,2,2:2d,12:1b,4:a,5:17,1:5,9:49,1:80,2:9,1:12,1:7,2:1,2:15,1:6,1,3:3,2:8,2:1,2:3,8,4:1,1:4,",
      "2:b,a,1,2:2,1:5,4:1,2:15,1:6,1:1,1:1,1:1,2,1:4,4:1,2:2,3,7:3,1,7:f,b:2,1:8,1:2,1:15,1:6,1:1,",
      "1:4,2:9,1:2,1:2,2,f:3,2:9,9:6,1:2,1:7,2:1,2:15,1:6,1:1,1:4,2:8,2:1,2:2,7:2,4:1,1:4,2:9,1,10:",
      "1,1:5,3:2,1:3,3:1,1,1:1,3:1,3:2,3:b,4:4,3:2,1:3,2,6,e:9,10:c,1:2,1:16,1:f,2:8,1:2,1:3,7:1,1:",
      "2,2,2:3,2:9,10:3,1:7,1:2,1:16,1:9,1:4,2:8,1:2,1:3,7:1,6:1,1:3,2:9,1:2,c:c,1:2,1:32,1:2,1:4,5",
      ":3,7:4,2:9,a:5,1:2,1:11,3:17,1:8,1,2:6,3,4:5,1,1:7,6:9,2:1,d:39,5:e,1:9,27:1,1,1:4,1:17,1,1:",
      "16,2:4,1,1:6,1:9,2:3,20,17:1,6:9,b,1,1,4:9,1:23,4:13,1:11,1:23,9,39:49,6:4d,2:25,1,5,2:2a,1:",
      "14c,1:3,2:6,1,1:3,2:28,1:3,2:20,1:3,2:6,1,1:3,2:e,1:38,1:3,2:42,2:2,9:8,e:f,10:55,2:5,3:26b,",
      "2:10,1:19,5:4a,3:a,7:15,9:15,b:13,c:c,1:2,1:1,c:53,3,4:1,2:9,21:2,1:a,6:58,7:2a,5:45,a:1e,1:",
      "b,4:b,a:27,2:4,b:2b,4:19,6:a,25:1b,4:3e,1:1c,2:a,6:9,d,8:d,1:f,31:4c,3:9,11:8,c:73,c:37,8:9,",
      "3:30,2:8,7:2a,2:2,10:2,1:26,5:215,2:5,2:25,2:5,2:7,1,1,1,1:1e,2:34,1:6,1,3:2,1:6,3:3,2:5,4:c",
      ",5:2,1:6,42:1,13,1c,d,10:c,33:c,4,3:b,11,4,2:9,1,2:5,6,1,1,1:f,2:3,5:4,4,11:28,a77:e4,6:8,c:",
      "25,1,5,2:37,7,f:17,9:6,1:6,1:6,1:6,1:6,1:6,1:6,1:6,1:1f,205:2,19:e,1:4,2:4,4:55,2:1,2:2,1:59",
      ",1:3,5:2a,1:5d,11:1f,30:f,200:19bf,40:568c,43:2d,2:10c,3:1b,14:2f,4:9,1:72,25:8,2:66,2:3f,5:",
      "1,1,1:4,18:35,4,13:33,c:45,a:9,6:17,3,1:30,2:23,c:1c,3:40,e:a,6:1e,1:36,9:d,2:9,6:16,3:48,18",
      ":2,2:f,2:4,a:5,2:5,2:5,9:6,1:6,1:2a,1:d,6:7a,1:1,2:9,6:2ba3,c:16,4:30,2104:16d,2:69,26:6,c:4",
      ",5:b,1:c,1:4,1,1:1,1:1,1:6b,21:8a,6:d9,12:3f,2:35,28:9,6:f,10:f,3:1,18:2,21,1,3,1,1,1,1:7d,1",
      "3:9,7:19,4,1:19,b:58,3:5,2:5,2:5,2:2,23:b,1:19,1:12,1:1,1:e,2:d,22:7a,45:34,88,82:1c,3:30,f,",
      "1f:1f,d:1d,5:2a,5:1d,2:23,4:7,1:4,2a:9d,2:9,6:23,4:23,4:27,8:33,c:a,1:e,1:6,1:1,1:a,1:e,1:6,",
      "1:1,43:136,9:15,a:7,18:5,1:29,1:8,45:5,2,1:2b,1:1,3,2:16,a:16,9:1e,41:12,1:1,a:15,a:19,46:37",
      ",6:1,40:3,1:1,5:7,1:2,1:1c,2:2,4,20:1c,3:1c,23:7,1:1d,19:35,a:15,a:12,d:11,6e:48,37:32,d:32,",
      "d:27,8:9,146:29,1:1,3:1,4b:1f,a,8:20,1f:15,2a:14,1b:16,9:46,1f:f,9:3b,7,d:18,7:9,6:34,1:9,4:",
      "3,8:23,2,9:44,4:3,1:c,1,23:11,1:24,6:3,3e:6,1,1:3,1:e,1:9,7:3a,5:9,6:3,1:7,2:1,2:15,1:6,1:1,",
      "1:4,1:9,2:1,2:2,2,6,5:6,2:6,3:4,8b:4a,5:9,4:3,1e:45,1,8:9,a6:35,2:8,17:5,22:40,3,b:9,26:38,7",
      ":9,36:1a,2:e,4:9,6:6,b9:3a,65:49,15:7,2,2:7,1:1,1:1d,1:1,2:8,c:9,46:7,2:2d,2:7,1:1,1b:3e,8,8",
      ":49,3,12:48,107:8,1:2c,1:8,f:9,18:1d,2:15,1:d,49:6,1:1,1:2b,3,1:1,1:8,8:9,6:5,1:1,1:24,1:1,1",
      ":5,7:9,136:16,9:10,1:28,3:4,d:9,56,4f:399,66:6e,11:c3,a4c:60,f:42f,10:15,faa:246,21b9:238,7:",
      "1e,1:9,6:4e,1:9,6:1d,2:4,b:36,9:3,c:9,9:14,5:12,2b0:3f,80:4a,4:38,7:10,40:1,1:1,b:1,e:17f7,8",
      ":4d5,2a:8,22e7:3,1:6,1:1,1:122,f,1d:2,2,e:3,8:18b,904:6a,5:c,3:8,7:9,3:1,1261:2d,2:16,21e:4,",
      "3:5,8:7,2:6,1e:3,94:2,1bb:54,1:46,1:1,2,2:1,2:3,1:b,1,1:6,1:40,1:3,2:7,1:6,1:1b,1:3,1:4,1,3:",
      "6,1:153,2:18,1:18,1:1e,1:18,1:1e,1:18,1:1e,1:18,1:1e,1:18,1:7,2:31,200:36,4:31,8,e,16:4,1:e,",
      "450:1e,6:5,d5:6,1:10,2:6,1:1,1:4,5:3d,21,70:2c,3:d,2:9,4,141:1e,11:39,1d6:29,2e6:6,1:3,1:1,1",
      ":e,1:c4,b:6,29:4b,4:9,4a6:3,1:1a,1:1,1,2,1:9,1:3,1,1,6,4,1,1,1:2,1:1,1,2,1,1,1,1,1:1,1,2:3,1",
      ":6,1:3,1:3,1,1:9,1:10,5:2,1:4,1:10,d34:9,406:a6df,20:1039,6:dd,2:1681,e:1d30,c1f:21d,5e2:134",
      "a,5:105f,add50:ef"]),
  (["xids", "xidstart"],
    String.join ["41:19,6:19,2f,a,4,5:16,1:1e,1:1c9,4:b,e:4,7,1,81:4,1:1,3:2,1,6,1:2,1,1:13,1:52,1:8a,8:a5,1:2",
      "5,2,6:28,47:1a,4:3,2d:2a,23:1,1:62,1,f:1,7:1,a:2,2,10,1:1d,1d:58,b,18:20,9:1,4,5:15,4,9,3,17",
      ":18,7:a,5:17,1:5,11:29,3a:35,3,12,7:9,f:f,4:7,2:1,2:15,1:6,1,3:3,3,10,d:1,1:2,e:1,a,8:5,4:1,",
      "2:15,1:6,1:1,1:1,1:1,1f:3,1,13:2,10:8,1:2,1:15,1:6,1:1,1:4,3,12,f:1,17,b:7,2:1,2:15,1:6,1:1,",
      "1:4,3,1e:1,1:2,f,11,1:5,3:2,1:3,3:1,1,1:1,3:1,3:2,3:b,16,34:7,1:2,1:16,1:f,3,1a:2,2,2:1,1e,4",
      ":7,1:2,1:16,1:9,1:4,3,1f:1,1:1,f:1,11:8,1:2,1:28,2,10,5:2,8:2,18:5,5:11,3:17,1:8,1,2:6,3a:2f",
      ",1,d:6,3a:1,1,1:4,1:17,1,1:9,1,a,2:4,1,15:3,20,3f:7,1:23,1b:4,73:2a,14,10:5,4:3,3,3:1,7:2,4:",
      "c,c,11:25,1,5,2:2a,1:14c,1:3,2:6,1,1:3,2:28,1:3,2:20,1:3,2:6,1,1:3,2:e,1:38,1:3,2:42,25:f,10",
      ":55,2:5,3:26b,2:10,1:19,5:4a,3:a,7:11,d:12,e:11,e:c,1:2,f:33,23,4,43:58,7:28,1,5:45,a:1e,31:",
      "1d,2:4,b:2b,4:19,36:16,9:34,52,5d:2e,11:7,36:1d,d:1,a:2b,1a:23,29:2,a:23,2:8,7:2a,2:2,29:3,1",
      ":5,1:1,3,5:bf,40:115,2:5,2:25,2:5,2:7,1,1,1,1:1e,2:34,1:6,1,3:2,1:6,3:3,2:5,4:c,5:2,1:6,74,d",
      ",10:c,65,4,2:9,1,2:5,6,1,1,1:f,2:3,5:4,4,11:28,a77:e4,6:3,3:1,c:25,1,5,2:37,7,10:16,9:6,1:6,",
      "1:6,1:6,1:6,1:6,1:6,1:6,226:2,19:8,7:4,2:4,4:55,6:2,1:59,1:3,5:2a,1:5d,11:1f,30:f,200:19bf,4",
      "0:568c,43:2d,2:10c,3:f,a:1,14:2e,10:1e,2:4f,27:8,2:66,2:3f,5:1,1,1:4,18:f,1:2,1:3,1:16,1d:33",
      ",e:31,3e:5,3,1:1,b:1b,a:16,19:1c,7:2e,1c,10:4,1:9,a:4,1:28,17:2,1:7,14:16,3,3:31,1,3:1,2:4,2",
      ",1,18:2,2:a,7:2,c:5,2:5,2:5,9:6,1:6,1:2a,1:d,6:72,1d:2ba3,c:16,4:30,2104:16d,2:69,26:6,c:4,5",
      ",1:9,1:c,1:4,1,1:1,1:1,1:6b,21:8a,6:d9,12:3f,2:35,28:9,77,1,3,1,1,1,1:7d,24:19,6:19,b:37,2:1",
      "e,3:5,2:5,2:5,2:2,23:b,1:19,1:12,1:1,1:e,2:d,22:7a,45:34,10b:1c,3:30,2f:1f,d:1d,5:25,a:1d,2:",
      "23,4:7,1:4,2a:9d,12:23,4:23,4:27,8:33,c:a,1:e,1:6,1:1,1:a,1:e,1:6,1:1,43:136,9:15,a:7,18:5,1",
      ":29,1:8,45:5,2,1:2b,1:1,3,2:16,a:16,9:1e,41:12,1:1,a:15,a:19,46:37,6:1,40,f:3,1:2,1:1c,2a:1c",
      ",3:1c,23:7,1:1b,1b:35,a:15,a:12,d:11,6e:48,37:32,d:32,d:23,15c:29,6:1,4e:1c,a,8:15,2a:11,2e:",
      "14,1b:16,c:34,39:1,2,d:2c,20:18,1a:23,1d,2,8:22,3,c:2f,e:3,15,1,23:11,1:18,13:1,3f:6,1,1:3,1",
      ":e,1:9,7:2e,26:7,2:1,2:15,1:6,1:1,1:4,3,12,c:4,9e:34,12:3,14:2,1e:2f,14:1,1,b8:2e,29:3,24:2f",
      ",14,3b:2a,d,47:1a,25:6,b9:2b,74:3f,1f:7,2,2:7,1:1,1:17,f,1,5e:7,2:26,10,1,1c,a:27,7,15,b:2d,",
      "13,12:48,107:8,1:24,11,31:1d,70:6,1:1,1:25,15,19:5,1:1,1:1f,e,147:12,f,1:c,1:21,7c,4f:399,66",
      ":6e,11:c3,a4c:60,f:42f,11:5,fb9:246,21b9:238,7:1e,11:4e,11:1d,12:2f,10:3,1f:14,5:12,2b0:3f,8",
      "0:4a,5,42:c,40:1,1,1c:17f7,8:4d5,2a:8,22e7:3,1:6,1:1,1:122,f,1d:2,2,e:3,8:18b,904:6a,5:c,3:8",
      ",7:9,1766:54,1:46,1:1,2,2:1,2:3,1:b,1,1:6,1:40,1:3,2:7,1:6,1:1b,1:3,1:4,1,3:6,1:153,2:18,1:1",
      "8,1:1e,1:18,1:1e,1:18,1:1e,1:18,1:1e,1:18,1:7,734:1e,6:5,105:3d,92:2c,a:6,10,141:1d,12:2b,1e",
      "4:1b,2f4:6,1:3,1:1,1:e,1:c4,3b:43,7,4b4:3,1:1a,1:1,1,2,1:9,1:3,1,1,6,4,1,1,1:2,1:1,1,2,1,1,1",
      ",1,1:1,1,2:3,1:6,1:3,1:3,1,1:9,1:10,5:2,1:4,1:10,1144:a6df,20:1039,6:dd,2:1681,e:1d30,c1f:21",
      "d,5e2:134a,5:105f"])]

/-- Ranges of the characters that words are made of: letters, marks, decimal digits, connectors and joiners. -/
def word : String := String.join [
  "30:9,7:19,4,1:19,2f,a,4,5:16,1:1e,1:1c9,4:b,e:4,7,1,11:74,1:1,2:3,1,6,1:2,1,1:13,1:52,1:8a,1",
  ":ac,1:25,2,6:28,8:2c,1,1:1,1:1,1,8:1a,4:3,1d:a,5:49,4:65,1:7,2:9,1:12,2,10:3a,2:64,e:35,4,2,",
  "2:2d,12:1b,4:a,5:17,1:5,9:49,1:80,2:9,1:12,1:7,2:1,2:15,1:6,1,3:3,2:8,2:1,2:3,8,4:1,1:4,2:b,",
  "a,1,2:2,1:5,4:1,2:15,1:6,1:1,1:1,1:1,2,1:4,4:1,2:2,3,7:3,1,7:f,b:2,1:8,1:2,1:15,1:6,1:1,1:4,",
  "2:9,1:2,1:2,2,f:3,2:9,9:6,1:2,1:7,2:1,2:15,1:6,1:1,1:4,2:8,2:1,2:2,7:2,4:1,1:4,2:9,1,10:1,1:",
  "5,3:2,1:3,3:1,1,1:1,3:1,3:2,3:b,4:4,3:2,1:3,2,6,e:9,10:c,1:2,1:16,1:f,2:8,1:2,1:3,7:1,1:2,2,",
  "2:3,2:9,10:3,1:7,1:2,1:16,1:9,1:4,2:8,1:2,1:3,7:1,6:1,1:3,2:9,1:2,c:c,1:2,1:32,1:2,1:4,5:3,7",
  ":4,2:9,a:5,1:2,1:11,3:17,1:8,1,2:6,3,4:5,1,1:7,6:9,2:1,d:39,5:e,1:9,27:1,1,1:4,1:17,1,1:16,2",
  ":4,1,1:6,1:9,2:3,20,17:1,6:9,b,1,1,4:9,1:23,4:13,1:11,1:23,9,39:49,6:4d,2:25,1,5,2:2a,1:14c,",
  "1:3,2:6,1,1:3,2:28,1:3,2:20,1:3,2:6,1,1:3,2:e,1:38,1:3,2:42,2:2,20:f,10:55,2:5,3:26b,2:10,1:",
  "19,5:4a,3:a,7:15,9:15,b:13,c:c,1:2,1:1,c:53,3,4:1,2:9,21:2,1:a,6:58,7:2a,5:45,a:1e,1:b,4:b,a",
  ":27,2:4,b:2b,4:19,6:9,26:1b,4:3e,1:1c,2:a,6:9,d,8:1e,31:4c,3:9,11:8,c:73,c:37,8:9,3:30,2:8,7",
  ":2a,2:2,10:2,1:26,5:215,2:5,2:25,2:5,2:7,1,1,1,1:1e,2:34,1:6,1,3:2,1:6,3:3,2:5,4:c,5:2,1:6,f",
  ":1,31:1,13,1c,d,10:c,33:20,11,4,2:9,1,3:4,6,1,1,1:3,1:a,2:3,5:4,4,11:28,32d:33,716:e4,6:8,c:",
  "25,1,5,2:37,7,f:17,9:6,1:6,1:6,1:6,1:6,1:6,1:6,1:6,1:1f,2f,1d5:2,19:e,1:4,2:4,4:55,2:1,2:2,1",
  ":59,1:3,5:2a,1:5d,11:1f,30:f,200:19bf,40:568c,43:2d,2:10c,3:1b,14:32,1:9,1:72,25:8,2:66,2:3f",
  ",5:1,1,1:4,18:35,4,13:33,c:45,a:9,6:17,3,1:30,2:23,c:1c,3:40,e:a,6:1e,1:36,9:d,2:9,6:16,3:48",
  ",18:2,2:f,2:4,a:5,2:5,2:5,9:6,1:6,1:2a,1:d,6:7a,1:1,2:9,6:2ba3,c:16,4:30,2104:16d,2:69,26:6,",
  "c:4,5:b,1:c,1:4,1,1:1,1:1,1:6b,21:16a,12:3f,2:35,28:b,4:f,10:f,3:1,18:2,20:4,1:86,13:9,7:19,",
  "4,1:19,b:58,3:5,2:5,2:5,2:2,23:b,1:19,1:12,1:1,1:e,2:d,22:7a,45:34,88,82:1c,3:30,f,1f:1f,d:1",
  "d,5:2a,5:1d,2:23,4:7,1:4,2a:9d,2:9,6:23,4:23,4:27,8:33,c:a,1:e,1:6,1:1,1:a,1:e,1:6,1:1,43:13",
  "6,9:15,a:7,18:5,1:29,1:8,45:5,2,1:2b,1:1,3,2:16,a:16,9:1e,41:12,1:1,a:15,a:19,46:37,6:1,40:3",
  ",1:1,5:7,1:2,1:1c,2:2,4,20:1c,3:1c,23:7,1:1d,19:35,a:15,a:12,d:11,6e:48,37:32,d:32,d:27,8:9,",
  "146:29,1:1,3:1,4b:1f,a,8:20,1f:15,2a:14,1b:16,9:46,1f:f,9:3b,7,d:18,7:9,6:34,1:9,4:3,8:23,2,",
  "9:44,4:3,1:c,1,23:11,1:24,6:3,3e:6,1,1:3,1:e,1:9,7:3a,5:9,6:3,1:7,2:1,2:15,1:6,1:1,1:4,1:9,2",
  ":1,2:2,2,6,5:6,2:6,3:4,8b:4a,5:9,4:3,1e:45,1,8:9,a6:35,2:8,17:5,22:40,3,b:9,26:38,7:9,36:1a,",
  "2:e,4:9,6:6,b9:3a,65:49,15:7,2,2:7,1:1,1:1d,1:1,2:8,c:9,46:7,2:2d,2:7,1:1,1b:3e,8,8:49,3,12:",
  "48,107:8,1:2c,1:8,f:9,18:1d,2:15,1:d,49:6,1:1,1:2b,3,1:1,1:8,8:9,6:5,1:1,1:24,1:1,1:5,7:9,13",
  "6:16,9:10,1:28,3:4,d:9,56,4f:399,66:6e,11:c3,a4c:60,f:42f,10:15,faa:246,21b9:238,7:1e,1:9,6:",
  "4e,1:9,6:1d,2:4,b:36,9:3,c:9,9:14,5:12,2b0:3f,80:4a,4:38,7:10,40:1,1:1,b:1,e:17f7,8:4d5,2a:8",
  ",22e7:3,1:6,1:1,1:122,f,1d:2,2,e:3,8:18b,904:6a,5:c,3:8,7:9,3:1,1261:2d,2:16,21e:4,3:5,8:7,2",
  ":6,1e:3,94:2,1bb:54,1:46,1:1,2,2:1,2:3,1:b,1,1:6,1:40,1:3,2:7,1:6,1:1b,1:3,1:4,1,3:6,1:153,2",
  ":18,1:18,1:1e,1:18,1:1e,1:18,1:1e,1:18,1:1e,1:18,1:7,2:31,200:36,4:31,8,e,16:4,1:e,450:1e,6:",
  "5,d5:6,1:10,2:6,1:1,1:4,5:3d,21,70:2c,3:d,2:9,4,141:1e,11:39,1d6:29,2e6:6,1:3,1:1,1:e,1:c4,b",
  ":6,29:4b,4:9,4a6:3,1:1a,1:1,1,2,1:9,1:3,1,1,6,4,1,1,1:2,1:1,1,2,1,1,1,1,1:1,1,2:3,1:6,1:3,1:",
  "3,1,1:9,1:10,5:2,1:4,1:10,274:19,6:19,6:19,a66:9,406:a6df,20:1039,6:dd,2:1681,e:1d30,c1f:21d",
  ",5e2:134a,5:105f,add50:ef"]

end DeviceLint.Text.Property
